/-!
# Pages

A list is shown in pages of one size. There is always at least one page, a page
beyond the last one is the last one, and a size of zero counts as one. The page
state remembers a page index and moves without ever leaving the pages.
-/

namespace Passage

def pageCount (total size : Nat) : Nat := max 1 ((total + (max 1 size - 1)) / max 1 size)

theorem pageCount_pos (total size : Nat) : 0 < pageCount total size := Nat.le_max_left 1 _

/-- A size of zero counts as one. -/
theorem pageCount_max (total size : Nat) : pageCount total (max 1 size) = pageCount total size := by
  have h : max 1 (max 1 size) = max 1 size := by omega
  rw [pageCount, h, pageCount]

structure Page (α : Type) where
  items : List α
  index : Nat
  count : Nat
  total : Nat
  hasPrev : Bool
  hasNext : Bool
  deriving DecidableEq, Repr

namespace Page

def label {α : Type} (p : Page α) : String :=
  "Page " ++ toString (p.index + 1) ++ " of " ++ toString p.count

/-- The page of a list that an index asks for. -/
def of {α : Type} (xs : List α) (index size : Nat) : Page α :=
  let size := max 1 size
  let count := pageCount xs.length size
  let i := min index (count - 1)
  { items := (xs.drop (i * size)).take size
    index := i
    count
    total := xs.length
    hasPrev := 0 < i
    hasNext := (i + 1) * size < xs.length }

end Page

def defaultPageSize : Nat := 12

/-- A page index and a page size; the index is the user's place in a list of results. -/
structure PageState where
  index : Nat
  size : Nat
  deriving DecidableEq, Repr

namespace PageState

def ofSize (size : Nat) : PageState := ⟨0, max 1 size⟩

def reset (s : PageState) : PageState := { s with index := 0 }

/-- Moves to a page, or to the last one if there are fewer. -/
def goTo (s : PageState) (index total : Nat) : PageState :=
  { s with index := min index (pageCount total s.size - 1) }

def next (s : PageState) (total : Nat) : PageState := s.goTo (s.index + 1) total

def prev (s : PageState) (total : Nat) : PageState := s.goTo (s.index - 1) total

def page {α : Type} (s : PageState) (xs : List α) : Page α := Page.of xs s.index s.size

theorem index_goTo_lt (s : PageState) (index total : Nat) :
    (s.goTo index total).index < pageCount total s.size := by
  have h := pageCount_pos total s.size
  change min index (pageCount total s.size - 1) < pageCount total s.size
  omega

end PageState

end Passage
