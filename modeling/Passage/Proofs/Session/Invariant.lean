import Passage.Proofs.Search.Meaning
import Passage.Proofs.Session.Run

/-!
# What holds of every session

The results belong to the loaded document, the page is one of theirs and the status
tells what is there. Each operation keeps this, a failed one included. It holds for
every configuration, also for one that would not pass its own validation.
-/

namespace Passage

/-- What a status says of the document and the results. -/
structure Status.Tells (status : Status) (document : Option Document) (results : List Finding) :
    Prop where
  settled : status ≠ .loading ∧ status ≠ .searching
  counted : ∀ n, status = .found n → n = results.length ∧ 0 < n
  empty : status = .idle ∨ status = .ready ∨ status = .noMatches → results = []
  unloaded : status = .idle → document = none
  shown : results ≠ [] → (∃ n, status = .found n) ∨ ∃ message, status = .failed message

namespace Status

theorem tells_idle : Tells .idle none [] := by
  constructor <;> simp

theorem tells_ready (document : Option Document) : Tells .ready document [] := by
  constructor <;> simp

theorem tells_failed (message : String) (document : Option Document) (results : List Finding) :
    Tells (.failed message) document results := by
  constructor <;> simp

theorem tells_counted (document : Option Document) (results : List Finding) :
    Tells (if results.length = 0 then .noMatches else .found results.length) document results := by
  by_cases h : results.length = 0
  · rw [if_pos h, List.eq_nil_of_length_eq_zero h]
    constructor <;> simp
  · rw [if_neg h]
    constructor <;> simp
    omega

end Status

namespace Session

/-- What holds of a session between operations, `pageSize` being the configured page size. -/
structure Valid (pageSize : Nat) (s : Session) : Prop where
  pages : s.page.size = max pageSize 1
  place : s.page.index < pageCount s.results.length s.page.size
  source : s.results ≠ [] → ∃ d, s.document = some d ∧ Search.Within d.paragraphs s.results
  status : s.status.Tells s.document s.results

namespace Valid

variable {pageSize : Nat} {s : Session}

theorem ofConfig (c : Config) : Valid c.pageSize (.ofConfig c) where
  pages := Nat.max_comm 1 c.pageSize
  place := pageCount_pos 0 _
  source := fun h => absurd rfl h
  status := Status.tells_idle

theorem fail (h : s.Valid pageSize) (e : Error) : (s.fail e).Valid pageSize where
  pages := h.pages
  place := h.place
  source := h.source
  status := Status.tells_failed _ _ _

theorem goTo (h : s.Valid pageSize) (index : Nat) : (s.goTo index).Valid pageSize where
  pages := h.pages
  place := s.page.index_goTo_lt index s.results.length
  source := h.source
  status := h.status

theorem withoutResults (h : s.Valid pageSize) {document : Option Document} {status : Status}
    (ht : status.Tells document []) :
    Valid pageSize { s with document, results := [], page := s.page.reset, status } where
  pages := h.pages
  place := pageCount_pos 0 _
  source := fun hne => absurd rfl hne
  status := ht

theorem load (h : s.Valid pageSize) (source : String) (answer : Except Error Content) :
    (s.load source answer).1.Valid pageSize := by
  cases answer with
  | error e => exact h.fail e
  | ok content => exact h.withoutResults (Status.tells_ready _)

theorem search (h : s.Valid pageSize) (query : String) : (s.search query).1.Valid pageSize := by
  rcases s.search_cases query with ⟨e, _, hs⟩ | ⟨r, hr, hs⟩
  · rw [hs]
    exact h.withoutResults (Status.tells_failed _ _ _)
  · have hw : Search.Within s.paragraphs r.findings := Search.within_run (Search.run_of_limited hr)
    rw [hs]
    constructor
    · exact h.pages
    · exact pageCount_pos _ _
    · intro hne
      obtain ⟨f, hf⟩ := List.exists_mem_of_ne_nil r.findings hne
      have hlt := hw.bounded f hf
      rw [paragraphs] at hw hlt
      -- without a document there are no paragraphs to find
      cases hd : s.document with
      | none =>
        rw [hd] at hlt
        cases hlt
      | some d =>
        rw [hd] at hw
        exact ⟨d, hd, hw⟩
    · exact Status.tells_counted _ _

/-- Every operation keeps a session valid. -/
theorem apply (h : s.Valid pageSize) (op : Operation) : (s.apply op).Valid pageSize := by
  cases op with
  | load source answer => exact h.load source answer
  | search query => exact h.search query
  | next => exact h.goTo (s.page.index + 1)
  | prev => exact h.goTo (s.page.index - 1)
  | goTo index => exact h.goTo index
  | setOptions options => exact ⟨h.pages, h.place, h.source, h.status⟩

theorem run (h : s.Valid pageSize) (ops : List Operation) : (s.run ops).Valid pageSize := by
  induction ops generalizing s with
  | nil => exact h
  | cons op ops ih => exact ih (h.apply op)

/-- The label names the user's page, which is one of the pages. -/
theorem label_currentPage (h : s.Valid pageSize) :
    s.currentPage.label = "Page " ++ toString (s.page.index + 1) ++ " of " ++
      toString (pageCount s.results.length s.page.size) := by
  have hp := h.place
  have hi : s.currentPage.index = s.page.index := by
    change min s.page.index (pageCount s.results.length (max 1 s.page.size) - 1) = s.page.index
    rw [pageCount_max]
    omega
  have hc : s.currentPage.count = pageCount s.results.length s.page.size :=
    pageCount_max s.results.length s.page.size
  rw [Page.label, hi, hc]

end Valid

theorem isSome_pager (s : Session) : s.view.pager.isSome ↔ s.results ≠ [] := by
  rw [view]
  cases s.results <;> simp

theorem pager_eq_some {s : Session} {p : PagerView} (h : s.view.pager = some p) :
    p = pagerView s.currentPage := by
  change (if s.results.isEmpty then none else some (pagerView s.currentPage)) = some p at h
  split at h
  · cases h
  · exact (Option.some.inj h).symm

/-- After every operation of every run the results belong to the loaded document, the page is one of
theirs and the status tells what is there. A view then has a pager if there are results, counts them
all and shows one of their pages. -/
theorem run_valid (c : Config) (ops : List Operation) :
    let s := run (ofConfig c) ops
    s.Valid c.pageSize ∧ (s.view.pager.isSome ↔ s.results ≠ []) ∧
      s.view.total = s.results.length ∧
      ∀ p, s.view.pager = some p → ∃ x y, p.label = "Page " ++ toString x ++ " of " ++ toString y ∧
        1 ≤ x ∧ x ≤ y ∧ x = s.page.index + 1 ∧ y = pageCount s.results.length s.page.size := by
  intro s
  have hv : s.Valid c.pageSize := (Valid.ofConfig c).run ops
  refine ⟨hv, s.isSome_pager, rfl, ?_⟩
  intro p hp
  obtain rfl := pager_eq_some hp
  exact ⟨_, _, hv.label_currentPage, Nat.le_add_left 1 _, hv.place, rfl, rfl⟩

end Session

end Passage
