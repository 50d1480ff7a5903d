import Mathlib.Data.List.Induction
import Passage.Proofs.Session.Run

/-!
# Results by history

A session keeps no record of what was asked of it, yet its document and its results
are those that the record determines: the latest successful load and the latest
search since then, with the options in force at that time. Histories are read
backwards here, the latest operation first.
-/

namespace Passage.Session

namespace Operation

/-- The document that a successful load yields. -/
def loaded? : Operation → Option Document
  | load source (.ok content) => some (Document.ofContent (Text.trimmed source) content)
  | _ => none

def query? : Operation → Option String
  | search query => some query
  | _ => none

def chosen? : Operation → Option Match.Options
  | setOptions options => some options
  | _ => none

/-- Neither a search nor a successful load. -/
def Quiet (op : Operation) : Prop := op.loaded? = none ∧ op.query? = none

end Operation

/-! ## What a history determines -/

/-- The document of the latest successful load. -/
def latestDocument? (history : List Operation) : Option Document :=
  history.findSome? Operation.loaded?

/-- The options in force, `first` being those at the start. -/
def latestOptions (first : Match.Options) (history : List Operation) : Match.Options :=
  (history.findSome? Operation.chosen?).getD first

/-- The latest search since the latest successful load, with the history before it. -/
def latestSearch? : List Operation → Option (String × List Operation)
  | [] => none
  | op :: earlier =>
    match op.query?, op.loaded? with
    | some query, _ => some (query, earlier)
    | none, some _ => none
    | none, none => latestSearch? earlier

/-- What the latest search since the latest successful load found in its document; nothing if there
was no search or it failed. -/
def latestResults (c : Config) (history : List Operation) : List Finding :=
  match latestSearch? history with
  | none => []
  | some (query, earlier) =>
    match Search.limited c.maxQueryLength (latestOptions c.options earlier)
        ((latestDocument? history).elim [] Document.paragraphs) query with
    | .ok response => response.findings
    | .error _ => []

theorem search_of_query? {op : Operation} {query : String} (h : op.query? = some query) :
    op = .search query := by
  cases op with
  | search other =>
    obtain rfl := Option.some.inj h
    rfl
  | _ => cases h

/-- Nothing but quiet operations comes after the latest search. -/
theorem latestSearch?_eq_some_iff {history earlier : List Operation} {query : String} :
    latestSearch? history = some (query, earlier) ↔
      ∃ later, history = later ++ .search query :: earlier ∧ ∀ op ∈ later, op.Quiet := by
  constructor
  · intro h
    induction history with
    | nil => cases h
    | cons op history ih =>
      rw [latestSearch?] at h
      split at h
      · next q _ hq =>
        obtain ⟨rfl, rfl⟩ := Prod.mk.inj (Option.some.inj h)
        refine ⟨[], ?_, fun _ hm => by cases hm⟩
        rw [search_of_query? hq, List.nil_append]
      · cases h
      · next hq hl =>
        obtain ⟨later, rfl, hlater⟩ := ih h
        refine ⟨op :: later, rfl, ?_⟩
        intro o ho
        rcases List.mem_cons.mp ho with rfl | ho
        · exact ⟨hl, hq⟩
        · exact hlater o ho
  · intro h
    obtain ⟨later, rfl, hlater⟩ := h
    induction later with
    | nil => rfl
    | cons op later ih =>
      obtain ⟨hl, hq⟩ := hlater op List.mem_cons_self
      rw [List.cons_append, latestSearch?, hq, hl]
      exact ih fun o ho => hlater o (List.mem_cons_of_mem op ho)

theorem latestDocument?_of_quiet {op : Operation} (h : op.Quiet) (history : List Operation) :
    latestDocument? (op :: history) = latestDocument? history := by
  rw [latestDocument?, List.findSome?_cons, h.1, latestDocument?]

theorem latestResults_of_quiet {op : Operation} (h : op.Quiet) (c : Config)
    (history : List Operation) : latestResults c (op :: history) = latestResults c history := by
  have hs : latestSearch? (op :: history) = latestSearch? history := by
    rw [latestSearch?, h.1, h.2]
  rw [latestResults, hs, latestDocument?_of_quiet h, latestResults]

/-! ## The session follows its history -/

theorem apply_of_quiet {op : Operation} (h : op.Quiet) (s : Session) :
    (s.apply op).document = s.document ∧ (s.apply op).results = s.results := by
  cases op with
  | load source answer =>
    cases answer with
    | error e => exact ⟨rfl, rfl⟩
    | ok content => cases h.1
  | search query => cases h.2
  | next => exact ⟨rfl, rfl⟩
  | prev => exact ⟨rfl, rfl⟩
  | goTo index => exact ⟨rfl, rfl⟩
  | setOptions options => exact ⟨rfl, rfl⟩

/-- What no quiet operation alters is the same after any number of them. -/
theorem run_of_quiet {ops : List Operation} (h : ∀ op ∈ ops, op.Quiet) (s : Session) :
    (s.run ops).document = s.document ∧ (s.run ops).results = s.results := by
  induction ops generalizing s with
  | nil => exact ⟨rfl, rfl⟩
  | cons op ops ih =>
    obtain ⟨hd, hr⟩ := ih (fun o ho => h o (List.mem_cons_of_mem op ho)) (s.apply op)
    obtain ⟨hd', hr'⟩ := apply_of_quiet (h op List.mem_cons_self) s
    exact ⟨hd.trans hd', hr.trans hr'⟩

theorem options_apply (s : Session) (op : Operation) :
    (s.apply op).options = op.chosen?.getD s.options ∧
      (s.apply op).maxQueryLength = s.maxQueryLength := by
  cases op with
  | load source answer => cases answer <;> exact ⟨rfl, rfl⟩
  | search query =>
    rcases s.search_cases query with ⟨e, _, hs⟩ | ⟨r, _, hs⟩
    · rw [apply, hs]
      exact ⟨rfl, rfl⟩
    · rw [apply, hs]
      exact ⟨rfl, rfl⟩
  | next => exact ⟨rfl, rfl⟩
  | prev => exact ⟨rfl, rfl⟩
  | goTo index => exact ⟨rfl, rfl⟩
  | setOptions options => exact ⟨rfl, rfl⟩

theorem document_search (s : Session) (query : String) :
    (s.search query).1.document = s.document := by
  rcases s.search_cases query with ⟨e, _, hs⟩ | ⟨r, _, hs⟩
  · rw [hs]
    rfl
  · rw [hs]
    rfl

theorem results_search (s : Session) (query : String) :
    (s.search query).1.results =
      match Search.limited s.maxQueryLength s.options s.paragraphs query with
      | .ok response => response.findings
      | .error _ => [] := by
  rcases s.search_cases query with ⟨e, hl, hs⟩ | ⟨r, hl, hs⟩
  · rw [hs, hl]
    rfl
  · rw [hs, hl]
    rfl

/-- The session is as its history has it. -/
structure Follows (c : Config) (history : List Operation) (s : Session) : Prop where
  document : s.document = latestDocument? history
  results : s.results = latestResults c history
  options : s.options = latestOptions c.options history
  limit : s.maxQueryLength = c.maxQueryLength

namespace Follows

variable {c : Config} {history : List Operation} {s : Session}

theorem paragraphs (h : Follows c history s) :
    s.paragraphs = (latestDocument? history).elim [] Document.paragraphs := by
  rw [← h.document, Session.paragraphs]
  cases s.document <;> rfl

theorem apply (h : Follows c history s) (op : Operation) :
    Follows c (op :: history) (s.apply op) := by
  obtain ⟨ho, hm⟩ := options_apply s op
  have hoptions : (s.apply op).options = latestOptions c.options (op :: history) := by
    rw [ho, h.options, latestOptions, latestOptions, List.findSome?_cons]
    cases op.chosen? <;> rfl
  have hlimit : (s.apply op).maxQueryLength = c.maxQueryLength := hm.trans h.limit
  by_cases hq : op.Quiet
  · obtain ⟨hd, hr⟩ := apply_of_quiet hq s
    refine ⟨?_, ?_, hoptions, hlimit⟩
    · rw [hd, h.document, latestDocument?_of_quiet hq]
    · rw [hr, h.results, latestResults_of_quiet hq]
  · cases op with
    | load source answer =>
      cases answer with
      | error e => exact absurd ⟨rfl, rfl⟩ hq
      | ok content => exact ⟨rfl, rfl, hoptions, hlimit⟩
    | search query =>
      refine ⟨(document_search s query).trans h.document, ?_, hoptions, hlimit⟩
      change (s.search query).1.results = _
      rw [results_search, h.limit, h.options, h.paragraphs]
      rfl
    | next => exact absurd ⟨rfl, rfl⟩ hq
    | prev => exact absurd ⟨rfl, rfl⟩ hq
    | goTo index => exact absurd ⟨rfl, rfl⟩ hq
    | setOptions options => exact absurd ⟨rfl, rfl⟩ hq

theorem run (c : Config) (ops : List Operation) :
    Follows c ops.reverse ((ofConfig c).run ops) := by
  induction ops using List.reverseRecOn with
  | nil => exact ⟨rfl, rfl, rfl, rfl⟩
  | append_singleton ops op ih =>
    rw [List.reverse_concat, run_append]
    exact ih.apply op

end Follows

/-- In the order of the run, the latest search is the one that only quiet operations follow. -/
theorem latestSearch?_reverse (ops earlier : List Operation) (query : String) :
    latestSearch? ops.reverse = some (query, earlier) ↔
      ∃ later, ops = earlier.reverse ++ .search query :: later ∧ ∀ op ∈ later, op.Quiet := by
  rw [latestSearch?_eq_some_iff]
  constructor
  · intro h
    obtain ⟨later, hops, hquiet⟩ := h
    refine ⟨later.reverse, ?_, fun op ho => hquiet op (List.mem_reverse.mp ho)⟩
    rw [← ops.reverse_reverse, hops]
    simp
  · intro h
    obtain ⟨later, rfl, hquiet⟩ := h
    refine ⟨later.reverse, ?_, fun op ho => hquiet op (List.mem_reverse.mp ho)⟩
    simp

/-- After every run the document is that of the latest successful load, and the results are what the
latest search since then finds in it, with the options in force when it was called. Option changes,
page moves and failed loads after that alter neither. -/
theorem run_determined (c : Config) (ops : List Operation) :
    let s := run (ofConfig c) ops
    s.document = latestDocument? ops.reverse ∧ s.results = latestResults c ops.reverse ∧
      (∀ query earlier, latestSearch? ops.reverse = some (query, earlier) ↔
        ∃ later, ops = earlier.reverse ++ .search query :: later ∧ ∀ op ∈ later, op.Quiet) ∧
      ∀ later, (∀ op ∈ later, op.Quiet) →
        (s.run later).document = s.document ∧ (s.run later).results = s.results := by
  intro s
  have h : Follows c ops.reverse s := Follows.run c ops
  refine ⟨h.document, h.results, ?_, ?_⟩
  · intro query earlier
    exact latestSearch?_reverse ops earlier query
  · intro later hq
    exact run_of_quiet hq s

end Passage.Session
