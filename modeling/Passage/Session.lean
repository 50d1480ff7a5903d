import Passage.Document
import Passage.Paging
import Passage.Search

/-!
# Search sessions

A session holds one document, the results of its last search, the user's page, the
match options and a status line. A successful load replaces the document and
clears the results; every search replaces the results. A failure changes nothing
but the status, and the results if it was a search that failed.
-/

namespace Passage

inductive Status
  | idle
  | loading
  | ready
  | searching
  | found (count : Nat)
  | noMatches
  | failed (message : String)
  deriving DecidableEq, Repr

def Status.text : Status → String
  | idle => ""
  | loading => "Extracting content…"
  | ready => "Ready. Type a query and search."
  | searching => "Searching…"
  | found count => "Matches: " ++ toString count
  | noMatches => "No matches."
  | failed message => message

structure Session where
  document : Option Document
  results : List Finding
  page : PageState
  options : Match.Options
  status : Status
  /-- Longer queries are refused. -/
  maxQueryLength : Nat
  deriving DecidableEq, Repr

/-- What a view shows of one result. -/
structure ResultView where
  number : Nat
  locator : String
  annotated : String
  source : String
  deriving DecidableEq, Repr

structure PagerView where
  index : Nat
  count : Nat
  hasPrev : Bool
  hasNext : Bool
  label : String
  deriving DecidableEq, Repr

/-- What a user sees of a session: the status and one page of results. -/
structure View where
  status : String
  total : Nat
  results : List ResultView
  pager : Option PagerView
  deriving DecidableEq, Repr

namespace Session

def start (pageSize maxQueryLength : Nat) (options : Match.Options) : Session where
  document := none
  results := []
  page := PageState.ofSize pageSize
  options
  status := .idle
  maxQueryLength

def fail (s : Session) (e : Error) : Session := { s with status := .failed e.statusMessage }

/-- Loads a source for which the extraction gave this answer. -/
def load (s : Session) (source : String) (answer : Except Error Content) :
    Session × Except Error Document :=
  let asked := { s with status := .loading }
  match answer with
  | .error e => (asked.fail e, .error e)
  | .ok content =>
    let document := Document.ofContent (Text.trimmed source) content
    ({ asked with
        document := some document, results := [], page := asked.page.reset, status := .ready },
      .ok document)

def paragraphs (s : Session) : List String :=
  match s.document with
  | some d => d.paragraphs
  | none => []

/-- Searches the document; the answer is the number of results. -/
def search (s : Session) (query : String) : Session × Except Error Nat :=
  let cleared := { s with results := [], page := s.page.reset, status := .searching }
  match Search.limited s.maxQueryLength s.options s.paragraphs query with
  | .error e => (cleared.fail e, .error e)
  | .ok response =>
    let count := response.findings.length
    ({ cleared with
        results := response.findings
        status := if count = 0 then .noMatches else .found count },
      .ok count)

def goTo (s : Session) (index : Nat) : Session :=
  { s with page := s.page.goTo index s.results.length }

def next (s : Session) : Session := { s with page := s.page.next s.results.length }

def prev (s : Session) : Session := { s with page := s.page.prev s.results.length }

def setOptions (s : Session) (options : Match.Options) : Session := { s with options }

def currentPage (s : Session) : Page Finding := s.page.page s.results

def source (s : Session) : String :=
  match s.document with
  | some d => d.source
  | none => ""

def resultView (source : String) (f : Finding) : ResultView where
  number := f.number
  locator := f.locator
  annotated := f.annotated
  source

def pagerView (p : Page Finding) : PagerView where
  index := p.index
  count := p.count
  hasPrev := p.hasPrev
  hasNext := p.hasNext
  label := p.label

def view (s : Session) : View where
  status := s.status.text
  total := s.results.length
  results := s.currentPage.items.map (resultView s.source)
  pager := if s.results.isEmpty then none else some (pagerView s.currentPage)

end Session

end Passage
