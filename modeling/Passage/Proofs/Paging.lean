import Passage.Paging

/-!
# Pages of a list

Behind the first page, an index is that of a page if the list goes on where the page
begins. So a page has a next one exactly if its index is not the last. All pages but the
last are full, and the pages one after another are the list.
-/

namespace Passage

/-- Behind the first page, an index is that of a page if items are left for it. -/
theorem succ_lt_pageCount_iff (index total size : Nat) :
    index + 1 < pageCount total size ↔ (index + 1) * max 1 size < total := by
  have hpos : 0 < max 1 size := Nat.lt_of_lt_of_le Nat.one_pos (Nat.le_max_left 1 size)
  have hdiv : index + 2 ≤ (total + (max 1 size - 1)) / max 1 size ↔
      (index + 2) * max 1 size ≤ total + (max 1 size - 1) := Nat.le_div_iff_mul_le hpos
  have hmul : (index + 2) * max 1 size = (index + 1) * max 1 size + max 1 size :=
    Nat.succ_mul (index + 1) (max 1 size)
  rw [pageCount]
  omega

/-- The pages have room for all items. -/
theorem le_pageCount_mul (total size : Nat) : total ≤ pageCount total size * max 1 size := by
  have hpos := pageCount_pos total size
  have hlast := succ_lt_pageCount_iff (pageCount total size - 1) total size
  rw [Nat.sub_add_cancel hpos] at hlast
  exact Nat.le_of_not_lt fun h => Nat.lt_irrefl _ (hlast.mpr h)

/-- Without items there is one page all the same. -/
theorem pageCount_zero (size : Nat) : pageCount 0 size = 1 := by
  have hpos := pageCount_pos 0 size
  have hlast := succ_lt_pageCount_iff (pageCount 0 size - 2) 0 size
  omega

namespace Page

variable {α : Type} (xs : List α) (index size : Nat)

theorem index_of : (of xs index size).index = min index (pageCount xs.length size - 1) := by
  change min index (pageCount xs.length (max 1 size) - 1) = _
  rw [pageCount_max]

theorem count_of : (of xs index size).count = pageCount xs.length size :=
  pageCount_max xs.length size

theorem items_of : (of xs index size).items =
    (xs.drop ((of xs index size).index * max 1 size)).take (max 1 size) :=
  rfl

theorem hasPrev_of_iff : (of xs index size).hasPrev ↔ 0 < (of xs index size).index :=
  decide_eq_true_iff

/-- A page has a next one if its index is not the last. -/
theorem hasNext_of_iff : (of xs index size).hasNext ↔
    (of xs index size).index + 1 < pageCount xs.length size := by
  have hmax : max 1 (max 1 size) = max 1 size := by omega
  rw [← pageCount_max, succ_lt_pageCount_iff, hmax]
  exact decide_eq_true_iff

/-! ## All pages -/

theorem of_min : of xs (min index (pageCount xs.length size - 1)) size = of xs index size := by
  simp only [of, pageCount_max, Nat.min_assoc, Nat.min_self]

theorem index_of_lt {index : Nat} (h : index < pageCount xs.length size) :
    (of xs index size).index = index := by
  rw [index_of]
  omega

theorem length_items_of : (of xs index size).items.length =
    min (max 1 size) (xs.length - (of xs index size).index * max 1 size) := by
  rw [items_of, List.length_take, List.length_drop]

theorem flatMap_items_of {count : Nat} (h : count ≤ pageCount xs.length size) :
    (List.range count).flatMap (fun j => (of xs j size).items) = xs.take (count * max 1 size) := by
  induction count with
  | zero => rw [Nat.zero_mul]; rfl
  | succ count ih =>
    rw [List.range_succ, List.flatMap_append, ih (Nat.le_of_succ_le h), List.flatMap_singleton,
      items_of, index_of_lt xs size h, Nat.succ_mul, List.take_add]

theorem start_lt (h : xs ≠ []) : (of xs index size).index * max 1 size < xs.length := by
  have hlen := List.length_pos_iff.mpr h
  have hpos := pageCount_pos xs.length size
  have hi := index_of xs index size
  cases hk : (of xs index size).index with
  | zero => rwa [Nat.zero_mul]
  | succ k =>
    rw [← succ_lt_pageCount_iff]
    omega

/-- A page begins inside the list, or at its end if the list is empty. -/
theorem start_le : (of xs index size).index * max 1 size ≤ xs.length := by
  by_cases h : xs = []
  · have hzero : (of xs index size).index = 0 := by
      rw [index_of, h, List.length_nil, pageCount_zero, Nat.sub_self, Nat.min_zero]
    rw [hzero, Nat.zero_mul]
    exact Nat.zero_le _
  · exact Nat.le_of_lt (start_lt xs index size h)

/-- A page that is not the last is full. -/
theorem length_items_of_succ_lt {index : Nat} (h : index + 1 < pageCount xs.length size) :
    (of xs index size).items.length = max 1 size := by
  have hmore := (succ_lt_pageCount_iff index xs.length size).mp h
  rw [Nat.succ_mul] at hmore
  rw [length_items_of, index_of_lt xs size (Nat.lt_of_succ_lt h)]
  omega

theorem length_items_pos (h : xs ≠ []) :
    1 ≤ (of xs index size).items.length ∧ (of xs index size).items.length ≤ max 1 size := by
  have hstart := start_lt xs index size h
  rw [length_items_of]
  omega

/-- What a list has in front of a page's items and behind them. -/
theorem exists_around_items_of :
    ∃ front back, xs = front ++ (of xs index size).items ++ back ∧
      front.length = (of xs index size).index * max 1 size ∧
      ((of xs index size).hasPrev ↔ front ≠ []) ∧ ((of xs index size).hasNext ↔ back ≠ []) := by
  have hfront := List.length_take_of_le (start_le xs index size)
  refine ⟨xs.take ((of xs index size).index * max 1 size),
    xs.drop (((of xs index size).index + 1) * max 1 size), ?_, hfront, ?_, ?_⟩
  · rw [items_of, Nat.succ_mul, ← List.drop_drop, List.append_assoc, List.take_append_drop,
      List.take_append_drop]
  · rw [hasPrev_of_iff, ← List.length_pos_iff, hfront, Nat.mul_pos_iff_of_pos_right (by omega)]
  · rw [← List.length_pos_iff, List.length_drop, Nat.sub_pos_iff_lt]
    exact decide_eq_true_iff

/-- The pages of a list one after another are the list. Each but the last is full, and the last has
an item unless the list has none. An index beyond the last page asks for the last one. A page has a
previous or a next one exactly if the list has items in front of its own or behind them. -/
theorem pages_partition :
    let count := pageCount xs.length size
    let page := of xs index size
    let last := of xs (count - 1) size
    (List.range count).flatMap (fun j => (of xs j size).items) = xs ∧
      (∀ j, j + 1 < count → (of xs j size).items.length = max 1 size) ∧
      (xs ≠ [] → 1 ≤ last.items.length ∧ last.items.length ≤ max 1 size) ∧
      (xs = [] → count = 1 ∧ last.items = []) ∧
      page = of xs (min index (count - 1)) size ∧
      ∃ front back, xs = front ++ page.items ++ back ∧
        front.length = page.index * max 1 size ∧
        (page.hasPrev ↔ front ≠ []) ∧ (page.hasNext ↔ back ≠ []) := by
  intro count page last
  have hroom : xs.length ≤ count * max 1 size := le_pageCount_mul xs.length size
  refine ⟨?_, fun j hj => length_items_of_succ_lt xs size hj,
    fun h => length_items_pos xs (count - 1) size h, ?_, (of_min xs index size).symm,
    exists_around_items_of xs index size⟩
  · rw [flatMap_items_of xs size (Nat.le_refl count), List.take_of_length_le hroom]
  · rintro rfl
    exact ⟨pageCount_zero size, List.take_eq_nil_of_eq_nil List.drop_nil⟩

end Page

end Passage
