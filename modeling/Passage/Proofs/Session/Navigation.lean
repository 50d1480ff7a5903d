import Passage.Proofs.Paging
import Passage.Proofs.Session.Invariant

/-!
# Moving between pages

The page that a view shows tells whether there is one before and one behind it, and moving
agrees with what it tells. So a user who moves on as long as there is a next page comes to
the last page and sees every result once, in order.
-/

namespace Passage.Session

theorem index_currentPage (s : Session) : s.currentPage.index =
    min s.page.index (pageCount s.results.length s.page.size - 1) :=
  Page.index_of s.results s.page.index s.page.size

theorem hasPrev_currentPage (s : Session) : s.currentPage.hasPrev ↔ 0 < s.currentPage.index :=
  Page.hasPrev_of_iff s.results s.page.index s.page.size

theorem hasNext_currentPage (s : Session) : s.currentPage.hasNext ↔
    s.page.index + 1 < pageCount s.results.length s.page.size := by
  have h := Page.hasNext_of_iff s.results s.page.index s.page.size
  have hi := s.index_currentPage
  change s.currentPage.hasNext ↔ s.currentPage.index + 1 < _ at h
  rw [h, hi]
  omega

theorem index_next (s : Session) : s.next.page.index =
    min (s.page.index + 1) (pageCount s.results.length s.page.size - 1) :=
  rfl

theorem index_prev (s : Session) : s.prev.page.index =
    min (s.page.index - 1) (pageCount s.results.length s.page.size - 1) :=
  rfl

theorem index_next_of_hasNext {s : Session} (h : s.currentPage.hasNext) :
    s.next.page.index = s.page.index + 1 := by
  have hlt := s.hasNext_currentPage.mp h
  rw [index_next]
  omega

/-! ## Walking on -/

/-- What is collected on the way to the last page, and how many moves that takes. -/
structure Walk where
  items : List Finding
  moves : Nat

/-- Collects the items of the user's page and moves on as long as there is a next page. -/
def walk (s : Session) : Walk :=
  if h : s.currentPage.hasNext then
    let onward := s.next.walk
    ⟨s.currentPage.items ++ onward.items, onward.moves + 1⟩
  else ⟨s.currentPage.items, 0⟩
termination_by pageCount s.results.length s.page.size - s.page.index
decreasing_by
  have hlt := s.hasNext_currentPage.mp h
  change pageCount s.results.length s.page.size - s.next.page.index < _
  rw [index_next_of_hasNext h]
  omega

namespace Valid

variable {pageSize : Nat} {s : Session}

theorem index_currentPage (h : s.Valid pageSize) : s.currentPage.index = s.page.index := by
  have hp := h.place
  rw [Session.index_currentPage]
  omega

theorem items_currentPage (h : s.Valid pageSize) : s.currentPage.items =
    (s.results.drop (s.page.index * max 1 s.page.size)).take (max 1 s.page.size) := by
  rw [← h.index_currentPage]
  exact Page.items_of s.results s.page.index s.page.size

/-- A walk passes each page from the user's one on, and so collects all results from there on. -/
theorem walk_eq (h : s.Valid pageSize) :
    s.walk = ⟨s.results.drop (s.page.index * max 1 s.page.size),
      pageCount s.results.length s.page.size - 1 - s.page.index⟩ := by
  induction s using walk.induct with
  | case1 s hnext ih =>
    have hlt := s.hasNext_currentPage.mp hnext
    have hitems : (s.results.drop (s.page.index * max 1 s.page.size)).take (max 1 s.page.size) ++
        s.results.drop ((s.page.index + 1) * max 1 s.page.size) =
          s.results.drop (s.page.index * max 1 s.page.size) := by
      rw [Nat.succ_mul, ← List.drop_drop, List.take_append_drop]
    have hmoves : pageCount s.results.length s.page.size - 1 - (s.page.index + 1) + 1 =
        pageCount s.results.length s.page.size - 1 - s.page.index := by omega
    rw [walk, dif_pos hnext, ih (h.goTo (s.page.index + 1)), index_next_of_hasNext hnext]
    change Walk.mk (s.currentPage.items ++ s.results.drop ((s.page.index + 1) * max 1 s.page.size))
      (pageCount s.results.length s.page.size - 1 - (s.page.index + 1) + 1) = _
    rw [h.items_currentPage, hitems, hmoves]
  | case2 s hlast =>
    have hend := mt s.hasNext_currentPage.mpr hlast
    have hmoves : 0 = pageCount s.results.length s.page.size - 1 - s.page.index := by omega
    -- what is left fits the user's page
    have hfits : (s.results.drop (s.page.index * max 1 s.page.size)).length ≤ max 1 s.page.size := by
      rw [succ_lt_pageCount_iff, Nat.succ_mul] at hend
      rw [List.length_drop]
      omega
    rw [walk, dif_neg hlast, h.items_currentPage, List.take_of_length_le hfits, ← hmoves]

theorem index_next (h : s.Valid pageSize) : s.next.page.index =
    if s.currentPage.hasNext then s.page.index + 1 else s.page.index := by
  have hp := h.place
  split
  · next hnext => exact index_next_of_hasNext hnext
  · next hlast =>
    have hend := mt s.hasNext_currentPage.mpr hlast
    rw [Session.index_next]
    omega

theorem index_prev (h : s.Valid pageSize) : s.prev.page.index =
    if s.currentPage.hasPrev then s.page.index - 1 else s.page.index := by
  have hp := h.place
  rw [Session.index_prev]
  split
  · omega
  · next hfirst =>
    have hzero := mt s.hasPrev_currentPage.mpr hfirst
    rw [h.index_currentPage] at hzero
    omega

/-- Without results the user is on the only page there is. -/
theorem alone_of_no_results (h : s.Valid pageSize) (hr : s.results = []) :
    s.currentPage.hasPrev = false ∧ s.currentPage.hasNext = false := by
  have hone : ∀ index, ¬ index + 1 < pageCount s.results.length s.page.size := by
    intro index
    rw [succ_lt_pageCount_iff, hr]
    exact Nat.not_lt_zero _
  have hp := h.place
  have hbehind := hone (s.page.index - 1)
  constructor
  · apply Bool.eq_false_iff.mpr
    rw [ne_eq, s.hasPrev_currentPage, h.index_currentPage]
    omega
  · apply Bool.eq_false_iff.mpr
    rw [ne_eq, s.hasNext_currentPage]
    exact hone s.page.index

end Valid

theorem index_search (s : Session) (query : String) : (s.search query).1.page.index = 0 := by
  rcases s.search_cases query with ⟨e, _, hs⟩ | ⟨r, _, hs⟩
  · rw [hs]
    rfl
  · rw [hs]
    rfl

/-- In every session that operations lead to, moving to the next or the previous page agrees with what
the shown page tells of them, and the shown page is the user's. So a walk from the first page on,
which is where every search puts the user, makes one move less than there are pages and collects
all results in their order. -/
theorem moves_agree_with_pager (c : Config) (ops : List Operation) :
    let s := run (ofConfig c) ops
    s.answer .next = .page (if s.currentPage.hasNext then s.page.index + 1 else s.page.index) ∧
      s.answer .prev = .page (if s.currentPage.hasPrev then s.page.index - 1 else s.page.index) ∧
      s.currentPage.index = s.page.index ∧
      (∀ p, s.view.pager = some p →
        p.hasPrev = s.currentPage.hasPrev ∧ p.hasNext = s.currentPage.hasNext) ∧
      (s.view.pager = none → s.currentPage.hasPrev = false ∧ s.currentPage.hasNext = false) ∧
      ∀ query, let t := (s.search query).1
        t.walk.items = t.results ∧ t.walk.moves = t.currentPage.count - 1 := by
  intro s
  have hv : s.Valid c.pageSize := (Valid.ofConfig c).run ops
  refine ⟨congrArg Answer.page hv.index_next, congrArg Answer.page hv.index_prev,
    hv.index_currentPage, ?_, ?_, ?_⟩
  · intro p hp
    obtain rfl := pager_eq_some hp
    exact ⟨rfl, rfl⟩
  · intro hp
    have hnone : ¬ s.view.pager.isSome := by
      rw [hp]
      decide
    exact hv.alone_of_no_results (Classical.not_not.mp (mt s.isSome_pager.mpr hnone))
  · intro query t
    have ht : t.Valid c.pageSize := hv.search query
    have hzero : t.page.index = 0 := s.index_search query
    have hcount : t.currentPage.count = pageCount t.results.length t.page.size :=
      Page.count_of t.results t.page.index t.page.size
    rw [ht.walk_eq, hzero, hcount, Nat.zero_mul]
    exact ⟨rfl, rfl⟩

end Passage.Session
