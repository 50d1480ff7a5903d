import Passage.Proofs.Paging

/-!
# Pages in 64-bit words

A machine computes pages in words of 64 bits. Here that is done step by step, and a step
that words cannot follow is refused: a sum or a product that is no word, a difference below
zero, a division by zero, a slice that leaves the list. If the list has less than half as many
items as there are words, nothing is refused, and the page is that of unbounded arithmetic.
Page states need no bound on the number of results.
-/

namespace Passage

namespace Word

/-! ## Words -/

def add? (a b : UInt64) : Option UInt64 :=
  if a.toNat + b.toNat < UInt64.size then some (a + b) else none

def mul? (a b : UInt64) : Option UInt64 :=
  if a.toNat * b.toNat < UInt64.size then some (a * b) else none

def sub? (a b : UInt64) : Option UInt64 := if b ≤ a then some (a - b) else none

/-- The quotient rounded up. -/
def divUp? (a b : UInt64) : Option UInt64 :=
  if b = 0 then none else if a % b = 0 then some (a / b) else add? (a / b) 1

/-- The word behind, except that the largest word stays. -/
def next (a : UInt64) : UInt64 := if a.toNat + 1 < UInt64.size then a + 1 else a

/-- The word in front, except that zero stays. -/
def prior (a : UInt64) : UInt64 := if 1 ≤ a then a - 1 else a

theorem toNat_max (a b : UInt64) : (max a b).toNat = max a.toNat b.toNat := by
  rw [show max a b = if a ≤ b then b else a from rfl, Nat.max_def]
  simp only [UInt64.le_iff_toNat_le]
  split <;> rfl

theorem toNat_min (a b : UInt64) : (min a b).toNat = min a.toNat b.toNat := by
  rw [show min a b = if a ≤ b then a else b from rfl, Nat.min_def]
  simp only [UInt64.le_iff_toNat_le]
  split <;> rfl

variable {a b : UInt64}

theorem add?_eq (h : a.toNat + b.toNat < UInt64.size) :
    ∃ c, add? a b = some c ∧ c.toNat = a.toNat + b.toNat := by
  refine ⟨a + b, if_pos h, ?_⟩
  rw [UInt64.toNat_add, Nat.mod_eq_of_lt h]

theorem mul?_eq (h : a.toNat * b.toNat < UInt64.size) :
    ∃ c, mul? a b = some c ∧ c.toNat = a.toNat * b.toNat := by
  refine ⟨a * b, if_pos h, ?_⟩
  rw [UInt64.toNat_mul, Nat.mod_eq_of_lt h]

theorem sub?_eq (h : b.toNat ≤ a.toNat) :
    ∃ c, sub? a b = some c ∧ c.toNat = a.toNat - b.toNat := by
  have hle := UInt64.le_iff_toNat_le.mpr h
  exact ⟨a - b, if_pos hle, UInt64.toNat_sub_of_le a b hle⟩

theorem div_up_eq (n : Nat) {d : Nat} (h : 0 < d) :
    (n + (d - 1)) / d = if n % d = 0 then n / d else n / d + 1 := by
  have hn := Nat.div_add_mod n d
  have hr := Nat.mod_lt n h
  have hq : n / d * d = d * (n / d) := Nat.mul_comm _ _
  split
  · apply Nat.div_eq_of_lt_le
    · omega
    · rw [Nat.succ_mul]
      omega
  · apply Nat.div_eq_of_lt_le
    · rw [Nat.succ_mul]
      omega
    · rw [Nat.succ_mul, Nat.succ_mul]
      omega

theorem divUp?_eq (h : 0 < b.toNat) :
    ∃ c, divUp? a b = some c ∧ c.toNat = (a.toNat + (b.toNat - 1)) / b.toNat := by
  have hb : b ≠ 0 := by
    rintro rfl
    exact absurd h (Nat.lt_irrefl 0)
  have hmod : a % b = 0 ↔ a.toNat % b.toNat = 0 := by
    rw [← UInt64.toNat_inj, UInt64.toNat_mod, UInt64.toNat_zero]
  rw [divUp?, if_neg hb, div_up_eq a.toNat h]
  simp only [hmod]
  split
  · exact ⟨a / b, rfl, UInt64.toNat_div a b⟩
  · next hr =>
    have ha := a.toNat_lt_size
    have hdiv := Nat.div_add_mod a.toNat b.toNat
    have hle : a.toNat / b.toNat ≤ b.toNat * (a.toNat / b.toNat) := Nat.le_mul_of_pos_left _ h
    have hsum : (a / b).toNat + (1 : UInt64).toNat < UInt64.size := by
      rw [UInt64.toNat_div, UInt64.toNat_one]
      omega
    obtain ⟨c, hc, hcn⟩ := add?_eq hsum
    exact ⟨c, hc, by rw [hcn, UInt64.toNat_div, UInt64.toNat_one]⟩

theorem toNat_next (a : UInt64) : (next a).toNat = min (a.toNat + 1) (UInt64.size - 1) := by
  have ha := a.toNat_lt_size
  rw [next]
  split
  · next h =>
    rw [UInt64.toNat_add, UInt64.toNat_one, Nat.mod_eq_of_lt h]
    omega
  · omega

theorem toNat_prior (a : UInt64) : (prior a).toNat = a.toNat - 1 := by
  rw [prior]
  split
  · next h => rw [UInt64.toNat_sub_of_le a 1 h, UInt64.toNat_one]
  · next h =>
    rw [UInt64.le_iff_toNat_le, UInt64.toNat_one] at h
    omega

/-! ## The numbers of a page -/

def pageCount? (total size : UInt64) : Option UInt64 := (divUp? total (max 1 size)).map (max 1)

/-- The index of the page that is asked for, or of the last one if there are fewer. -/
def place? (count index : UInt64) : Option UInt64 := (sub? count 1).map (min index)

/-- The items from one place up to another. -/
def slice? {α : Type} (xs : List α) (start stop : UInt64) : Option (List α) :=
  if start ≤ stop ∧ stop.toNat ≤ xs.length then
    some ((xs.drop start.toNat).take (stop.toNat - start.toNat))
  else none

/-- The items of a page. -/
def items? {α : Type} (xs : List α) (i size : UInt64) : Option (List α) := do
  let total := UInt64.ofNat xs.length
  let start := min (← mul? i size) total
  let stop := min (← add? start size) total
  slice? xs start stop

/-- Whether the list goes on behind a page. -/
def goesOn? (total i size : UInt64) : Option Bool := do
  return (← mul? (← add? i 1) size) < total

theorem pageCount?_eq (total size : UInt64) :
    ∃ c, pageCount? total size = some c ∧ c.toNat = pageCount total.toNat size.toNat := by
  have hsize : (max 1 size).toNat = max 1 size.toNat := by rw [toNat_max, UInt64.toNat_one]
  have hpos : 0 < (max 1 size).toNat := by omega
  obtain ⟨c, hc, hcn⟩ := divUp?_eq (a := total) hpos
  refine ⟨max 1 c, by rw [pageCount?, hc]; rfl, ?_⟩
  rw [toNat_max, hcn, hsize, UInt64.toNat_one, pageCount]

theorem place?_eq {count : UInt64} (h : 1 ≤ count.toNat) (index : UInt64) :
    ∃ i, place? count index = some i ∧ i.toNat = min index.toNat (count.toNat - 1) := by
  obtain ⟨last, hl, hln⟩ := sub?_eq (a := count) (b := 1) h
  refine ⟨min index last, by rw [place?, hl]; rfl, ?_⟩
  rw [toNat_min, hln, UInt64.toNat_one]

theorem items?_eq {α : Type} {xs : List α} (i size : UInt64) (hlen : xs.length < UInt64.size)
    (hi : i.toNat * size.toNat ≤ xs.length) (hend : (i.toNat + 1) * size.toNat < UInt64.size) :
    items? xs i size = some ((xs.drop (i.toNat * size.toNat)).take size.toNat) := by
  have hsplit : (i.toNat + 1) * size.toNat = i.toNat * size.toNat + size.toNat := Nat.succ_mul _ _
  have htotal : (UInt64.ofNat xs.length).toNat = xs.length := UInt64.toNat_ofNat_of_lt' hlen
  obtain ⟨first, hf, hfn⟩ := mul?_eq (a := i) (b := size) (by omega)
  have hstart : (min first (UInt64.ofNat xs.length)).toNat = i.toNat * size.toNat := by
    rw [toNat_min, hfn, htotal, Nat.min_eq_left hi]
  obtain ⟨past, ho, hon⟩ := add?_eq (a := min first (UInt64.ofNat xs.length)) (b := size) (by omega)
  have hstop : (min past (UInt64.ofNat xs.length)).toNat =
      min (i.toNat * size.toNat + size.toNat) xs.length := by
    rw [toNat_min, hon, hstart, htotal]
  have hinside : min first (UInt64.ofNat xs.length) ≤ min past (UInt64.ofNat xs.length) ∧
      (min past (UInt64.ofNat xs.length)).toNat ≤ xs.length := by
    rw [UInt64.le_iff_toNat_le, hstart, hstop]
    omega
  simp only [items?, hf, ho, Option.bind_eq_bind, Option.bind_some]
  rw [slice?, if_pos hinside, hstart, hstop, Option.some.injEq, List.take_eq_take_iff,
    List.length_drop]
  omega

theorem goesOn?_eq (total i size : UInt64) (hi : i.toNat + 1 < UInt64.size)
    (hend : (i.toNat + 1) * size.toNat < UInt64.size) :
    goesOn? total i size = some (decide ((i.toNat + 1) * size.toNat < total.toNat)) := by
  obtain ⟨number, hn, hnn⟩ := add?_eq (a := i) (b := 1) hi
  rw [UInt64.toNat_one] at hnn
  obtain ⟨behind, hb, hbn⟩ := mul?_eq (a := number) (b := size) (by rwa [hnn])
  simp only [goesOn?, hn, hb, Option.bind_eq_bind, Option.bind_some, Option.pure_def,
    UInt64.lt_iff_toNat_lt, hbn, hnn]

end Word

namespace Page

variable {α : Type}

/-- The page that an index asks for, computed in words. -/
def inWords? (xs : List α) (index size : UInt64) : Option (Page α) := do
  let size := max 1 size
  let total := UInt64.ofNat xs.length
  let count ← Word.pageCount? total size
  let i ← Word.place? count index
  return {
    items := ← Word.items? xs i size
    index := i.toNat
    count := count.toNat
    total := total.toNat
    hasPrev := 0 < i
    hasNext := ← Word.goesOn? total i size }

/-- No number on the way to a page of this size leaves the words, and the page's items lie between
two places of the list. -/
structure FitsWords (p : Page α) (size : Nat) : Prop where
  divisor_pos : 0 < size
  count_pos : 1 ≤ p.count
  start_lt : p.index * size < UInt64.size
  stop_lt : min (p.index * size) p.total + size < UInt64.size
  behind_lt : (p.index + 1) * size < UInt64.size
  number_lt : p.index + 1 < UInt64.size
  start_le : min (p.index * size) p.total ≤ min (min (p.index * size) p.total + size) p.total
  stop_le : min (min (p.index * size) p.total + size) p.total ≤ p.total

variable {xs : List α}

/-- Only the first page may be longer than the list, so that the end of every page is a word. -/
theorem fitsWords_of (hlen : 2 * xs.length < UInt64.size) (index : Nat) {size : Nat}
    (hsize : size < UInt64.size) : (of xs index size).FitsWords (max 1 size) := by
  have hcount : 1 ≤ (of xs index size).count := by
    rw [count_of]
    exact pageCount_pos xs.length size
  have hi := index_of xs index size
  rw [← count_of xs index size] at hi
  have hend : ((of xs index size).index + 1) * max 1 size < UInt64.size := by
    cases hk : (of xs index size).index with
    | zero =>
      have hone : 1 < UInt64.size := by decide
      rw [Nat.zero_add, Nat.one_mul]
      omega
    | succ k =>
      have hstart : (k + 1) * max 1 size < xs.length := by
        rw [← succ_lt_pageCount_iff, ← count_of xs index size]
        omega
      have hle : max 1 size ≤ (k + 1) * max 1 size := Nat.le_mul_of_pos_left _ (Nat.succ_pos k)
      rw [Nat.succ_mul]
      omega
  have hnumber : (of xs index size).index + 1 ≤ ((of xs index size).index + 1) * max 1 size :=
    Nat.le_mul_of_pos_right _ (by omega)
  have hsplit : ((of xs index size).index + 1) * max 1 size =
      (of xs index size).index * max 1 size + max 1 size := Nat.succ_mul _ _
  constructor <;> omega

theorem inWords?_eq (hlen : 2 * xs.length < UInt64.size) (index size : UInt64) :
    inWords? xs index size = some (of xs index.toNat size.toNat) := by
  have hfits := fitsWords_of hlen index.toNat size.toNat_lt_size
  have hlen' : xs.length < UInt64.size := by omega
  have hsize : (max 1 size).toNat = max 1 size.toNat := by
    rw [Word.toNat_max, UInt64.toNat_one]
  have htotal : (UInt64.ofNat xs.length).toNat = xs.length := UInt64.toNat_ofNat_of_lt' hlen'
  obtain ⟨count, hc, hcount⟩ := Word.pageCount?_eq (UInt64.ofNat xs.length) (max 1 size)
  rw [htotal, hsize, pageCount_max, ← count_of xs index.toNat] at hcount
  obtain ⟨i, hi, hindex⟩ := Word.place?_eq (by rw [hcount]; exact hfits.count_pos) index
  rw [hcount, count_of, ← index_of] at hindex
  have hitems := Word.items?_eq i (max 1 size) hlen'
    (by rw [hindex, hsize]; exact start_le xs index.toNat size.toNat)
    (by rw [hindex, hsize]; exact hfits.behind_lt)
  have hmore := Word.goesOn?_eq (UInt64.ofNat xs.length) i (max 1 size)
    (by rw [hindex]; exact hfits.number_lt) (by rw [hindex, hsize]; exact hfits.behind_lt)
  simp only [inWords?, hc, hi, hitems, hmore, Option.bind_eq_bind, Option.bind_some,
    Option.pure_def, UInt64.lt_iff_toNat_lt, hindex, hsize, hcount, htotal]
  rfl

end Page

namespace PageState

/-! ## Moving -/

/-- What may be done to a page state; a total is the number of results at the time. -/
inductive Move
  | next (total : UInt64)
  | prev (total : UInt64)
  | goTo (index total : UInt64)
  | reset

/-- The number of results that a move clamps to. -/
def Move.total? : Move → Option UInt64
  | .next total => some total
  | .prev total => some total
  | .goTo _ total => some total
  | .reset => none

def apply (s : PageState) : Move → PageState
  | .next total => s.next total.toNat
  | .prev total => s.prev total.toNat
  | .goTo index total => s.goTo index.toNat total.toNat
  | .reset => s.reset

def run (s : PageState) (moves : List Move) : PageState := moves.foldl apply s

/-- A page state held in words. -/
structure Words where
  index : UInt64
  size : UInt64

namespace Words

def ofSize (size : UInt64) : Words := ⟨0, max 1 size⟩

def state (w : Words) : PageState := ⟨w.index.toNat, w.size.toNat⟩

def goTo? (w : Words) (index total : UInt64) : Option Words := do
  let count ← Word.pageCount? total w.size
  return { w with index := ← Word.place? count index }

def step? (w : Words) : Move → Option Words
  | .next total => w.goTo? (Word.next w.index) total
  | .prev total => w.goTo? (Word.prior w.index) total
  | .goTo index total => w.goTo? index total
  | .reset => some { w with index := 0 }

def run? (w : Words) (moves : List Move) : Option Words := moves.foldlM step? w

theorem state_ofSize (size : UInt64) : (ofSize size).state = PageState.ofSize size.toNat := by
  rw [ofSize, state, Word.toNat_max]
  rfl

theorem goTo?_eq (w : Words) (index total : UInt64) :
    ∃ v, w.goTo? index total = some v ∧ v.state = w.state.goTo index.toNat total.toNat := by
  obtain ⟨count, hc, hcount⟩ := Word.pageCount?_eq total w.size
  obtain ⟨i, hi, hindex⟩ := Word.place?_eq (by rw [hcount]; exact pageCount_pos _ _) index
  refine ⟨{ w with index := i }, by simp [goTo?, hc, hi], ?_⟩
  rw [state, hindex, hcount]
  rfl

theorem pageCount_lt (total size : UInt64) : pageCount total.toNat size.toNat < UInt64.size := by
  obtain ⟨count, _, hcount⟩ := Word.pageCount?_eq total size
  rw [← hcount]
  exact count.toNat_lt_size

/-- The largest word is no page's index, so that it may stand for the index behind it. -/
theorem goTo_next (w : Words) (total : UInt64) :
    w.state.goTo (Word.next w.index).toNat total.toNat = w.state.next total.toNat := by
  have hlt := pageCount_lt total w.size
  have hmin : min (min (w.index.toNat + 1) (UInt64.size - 1))
        (pageCount total.toNat w.size.toNat - 1) =
      min (w.index.toNat + 1) (pageCount total.toNat w.size.toNat - 1) := by omega
  rw [Word.toNat_next, next, goTo, goTo]
  exact congrArg (PageState.mk · w.size.toNat) hmin

theorem step?_eq (w : Words) (m : Move) :
    ∃ v, w.step? m = some v ∧ v.state = w.state.apply m := by
  cases m with
  | next total =>
    obtain ⟨v, hv, hs⟩ := w.goTo?_eq (Word.next w.index) total
    exact ⟨v, hv, hs.trans (w.goTo_next total)⟩
  | prev total =>
    obtain ⟨v, hv, hs⟩ := w.goTo?_eq (Word.prior w.index) total
    rw [Word.toNat_prior] at hs
    exact ⟨v, hv, hs⟩
  | goTo index total => exact w.goTo?_eq index total
  | reset => exact ⟨_, rfl, rfl⟩

theorem run?_eq (w : Words) (moves : List Move) :
    ∃ v, w.run? moves = some v ∧ v.state = w.state.run moves := by
  induction moves generalizing w with
  | nil => exact ⟨w, rfl, rfl⟩
  | cons m moves ih =>
    obtain ⟨u, hu, hus⟩ := w.step?_eq m
    obtain ⟨v, hv, hvs⟩ := ih u
    refine ⟨v, ?_, ?_⟩
    · rw [run?, List.foldlM_cons, hu]
      exact hv
    · rw [hvs, hus]
      rfl

end Words

theorem run_concat (s : PageState) (moves : List Move) (m : Move) :
    s.run (moves ++ [m]) = (s.run moves).apply m :=
  List.foldl_append

theorem index_apply_lt (s : PageState) {m : Move} {total : UInt64} (h : total ∈ m.total?) :
    (s.apply m).index < pageCount total.toNat (s.apply m).size := by
  cases m with
  | next t =>
    obtain rfl := Option.some.inj h
    exact s.index_goTo_lt _ _
  | prev t =>
    obtain rfl := Option.some.inj h
    exact s.index_goTo_lt _ _
  | goTo i t =>
    obtain rfl := Option.some.inj h
    exact s.index_goTo_lt _ _
  | reset => cases h

theorem index_run_lt (s : PageState) {moves : List Move} {m : Move} {total : UInt64}
    (hm : m ∈ moves.getLast?) (h : total ∈ m.total?) :
    (s.run moves).index < pageCount total.toNat (s.run moves).size := by
  obtain ⟨front, rfl⟩ := List.getLast?_eq_some_iff.mp hm
  rw [run_concat]
  exact (s.run front).index_apply_lt h

end PageState

/-- A list with less than 2^63 items has its pages computed in words without a refused step,
whatever words are asked for, and they are its pages. So is every page state that moves lead to, for
any totals; there is always a last page, and each move but a reset ends on it or in front of it. -/
theorem paging_stays_in_words :
    (∀ {α : Type} (xs : List α), 2 * xs.length < UInt64.size → ∀ index size : UInt64,
      let page := Page.of xs index.toNat size.toNat
      Page.inWords? xs index size = some page ∧ page.FitsWords (max 1 size.toNat)) ∧
    ∀ (size : UInt64) (moves : List PageState.Move),
      ∃ w, (PageState.Words.ofSize size).run? moves = some w ∧
        w.state = (PageState.ofSize size.toNat).run moves ∧
        ∀ m ∈ moves.getLast?, ∀ total ∈ m.total?,
          1 ≤ pageCount total.toNat w.size.toNat ∧
            w.index.toNat ≤ pageCount total.toNat w.size.toNat - 1 := by
  refine ⟨fun xs hlen index size => ⟨Page.inWords?_eq hlen index size,
    Page.fitsWords_of hlen index.toNat size.toNat_lt_size⟩, fun size moves => ?_⟩
  obtain ⟨w, hw, hs⟩ := (PageState.Words.ofSize size).run?_eq moves
  rw [PageState.Words.state_ofSize] at hs
  refine ⟨w, hw, hs, fun m hm total ht => ?_⟩
  have hlt := (PageState.ofSize size.toNat).index_run_lt hm ht
  rw [← hs] at hlt
  change w.index.toNat < pageCount total.toNat w.size.toNat at hlt
  omega

/-- The largest index and the largest size, and moves on from there with results lost on the way. -/
theorem paging_stays_in_words_largest :
    let largest : UInt64 := 18446744073709551615
    Page.inWords? ["a", "b", "c"] largest largest = some ⟨["a", "b", "c"], 0, 1, 3, false, false⟩ ∧
      ∃ w, w.state = ⟨2, 1⟩ ∧
        (PageState.Words.ofSize 0).run? [.goTo largest largest, .next largest, .prev 3] = some w := by
  intro largest
  obtain ⟨hpage, _⟩ := paging_stays_in_words.1 ["a", "b", "c"] (by decide) largest largest
  obtain ⟨w, hw, hs, _⟩ :=
    paging_stays_in_words.2 0 [.goTo largest largest, .next largest, .prev 3]
  exact ⟨hpage.trans (by decide +kernel), w, hs.trans (by decide +kernel), hw⟩

end Passage
