import Passage.Proofs.Match.Pieces

/-!
# Joining two cuts of a text

One text cut in two ways, with hits that do not overlap, is cut in a third way that has
the hits of both. Where whole words are searched for, hits of different cuts must not
even touch. Nothing is said here of what the hits are.
-/

namespace Passage.Match

/-- The spans do not overlap, and with `whole` there is something in between. -/
def Separate (whole : Bool) (r s : Span) : Prop :=
  if whole then r.stop < s.start ∨ s.stop < r.start else r.stop ≤ s.start ∨ s.stop ≤ r.start

instance (whole : Bool) (r s : Span) : Decidable (Separate whole r s) := by
  unfold Separate
  infer_instance

/-- The third cut has the hits of the other two. With `whole`, no hit of the second stands beside
one of the first, and `beside` tells that such a hit has just ended. -/
inductive Joins (whole : Bool) : Bool → List Piece → List Piece → List Piece → Prop
  | nil {beside : Bool} : Joins whole beside [] [] []
  | keep (c : Char) {beside : Bool} {xs ys zs : List Piece} : Joins whole false xs ys zs →
      Joins whole beside (.keep c :: xs) (.keep c :: ys) (.keep c :: zs)
  | left (s : List Char) {beside : Bool} {xs ys zs : List Piece} : Joins whole true xs ys zs →
      Joins whole beside (.hit s :: xs) (s.map .keep ++ ys) (.hit s :: zs)
  | right (s : List Char) {beside : Bool} {xs ys zs : List Piece} :
      (whole = true → beside = false ∧ ∀ x ∈ xs.head?, x.isHit = false) →
      Joins whole false xs ys zs →
      Joins whole beside (s.map .keep ++ xs) (.hit s :: ys) (.hit s :: zs)

/-- No piece is empty. -/
def Solid (xs : List Piece) : Prop := ∀ x ∈ xs, x.text ≠ []

theorem solid_nil : Solid [] := fun _ hx => absurd hx List.not_mem_nil

theorem solid_keeps (w : List Char) : Solid (w.map .keep) := by
  intro x hx
  obtain ⟨c, _, rfl⟩ := List.mem_map.mp hx
  exact List.cons_ne_nil c []

theorem solid_append {xs ys : List Piece} : Solid (xs ++ ys) ↔ Solid xs ∧ Solid ys :=
  List.forall_mem_append

theorem solid_cons {x : Piece} {xs : List Piece} : Solid (x :: xs) ↔ x.text ≠ [] ∧ Solid xs :=
  List.forall_mem_cons

theorem eq_nil_of_textOf {xs : List Piece} (h : Solid xs) (ht : textOf xs = []) : xs = [] := by
  cases xs with
  | nil => rfl
  | cons x xs => exact absurd (List.append_eq_nil_iff.mp ht).1 (solid_cons.mp h).1

namespace Joins

variable {whole beside : Bool} {xs ys zs : List Piece}

theorem textOf_eq (h : Joins whole beside xs ys zs) :
    textOf xs = textOf zs ∧ textOf ys = textOf zs := by
  induction h with
  | nil => exact ⟨rfl, rfl⟩
  | keep c _ ih => exact ⟨congrArg (c :: ·) ih.1, congrArg (c :: ·) ih.2⟩
  | left s _ ih =>
    rw [textOf_append, textOf_keeps, textOf_cons, textOf_cons, ih.1, ih.2]
    exact ⟨rfl, rfl⟩
  | right s _ _ ih =>
    rw [textOf_append, textOf_keeps, textOf_cons, textOf_cons, ih.1, ih.2]
    exact ⟨rfl, rfl⟩

theorem solid (h : Joins whole beside xs ys zs) (hx : Solid xs) (hy : Solid ys) : Solid zs := by
  induction h with
  | nil => exact hx
  | keep c _ ih =>
    exact solid_cons.mpr ⟨List.cons_ne_nil c [], ih (solid_cons.mp hx).2 (solid_cons.mp hy).2⟩
  | left s _ ih =>
    exact solid_cons.mpr ⟨(solid_cons.mp hx).1, ih (solid_cons.mp hx).2 (solid_append.mp hy).2⟩
  | right s _ _ ih =>
    exact solid_cons.mpr ⟨(solid_cons.mp hy).1, ih (solid_append.mp hx).2 (solid_cons.mp hy).2⟩

/-- The joined cut has each span once. -/
theorem spans_perm (h : Joins whole beside xs ys zs) (i : Nat) :
    (spansFrom List.length i zs).Perm
      (spansFrom List.length i xs ++ spansFrom List.length i ys) := by
  induction h generalizing i with
  | nil => exact .nil
  | keep c _ ih => exact ih (i + 1)
  | left s _ ih =>
    rw [spansFrom_hit, spansFrom_hit, spansFrom_keeps]
    exact (ih _).cons _
  | right s _ _ ih =>
    rw [spansFrom_hit, spansFrom_hit, spansFrom_keeps]
    exact ((ih _).cons _).trans List.perm_middle.symm

end Joins

/-! ## Separate cuts can be joined -/

/-- A solid cut whose spans all begin behind the first stretch keeps its characters. -/
theorem exists_keeps {i : Nat} {xs : List Piece} {s rest : List Char} (hx : Solid xs)
    (ht : textOf xs = s ++ rest) (hs : ∀ r ∈ spansFrom List.length i xs, i + s.length ≤ r.start) :
    ∃ ys, xs = s.map .keep ++ ys := by
  induction s generalizing i xs with
  | nil => exact ⟨xs, rfl⟩
  | cons c s ih =>
    cases xs with
    | nil => cases ht
    | cons x xs =>
      cases x with
      | keep d =>
        obtain ⟨rfl, hrest⟩ := List.cons.inj (show d :: textOf xs = c :: (s ++ rest) from ht)
        obtain ⟨ys, rfl⟩ := ih (i := i + 1) (solid_cons.mp hx).2 hrest fun r hr => by
          have h := hs r hr
          rw [List.length_cons] at h
          omega
        exact ⟨ys, rfl⟩
      | hit v =>
        have h := hs ⟨i, i + v.length⟩ List.mem_cons_self
        rw [List.length_cons] at h
        simp only at h
        omega

theorem solid_spans {i : Nat} {xs : List Piece} (hx : Solid xs) :
    ∀ r ∈ spansFrom List.length i xs, r.start < r.stop := by
  induction xs generalizing i with
  | nil => nofun
  | cons x xs ih =>
    obtain ⟨hne, hx'⟩ := solid_cons.mp hx
    cases x with
    | keep c => exact ih hx'
    | hit s =>
      refine List.forall_mem_cons.mpr ⟨?_, ih hx'⟩
      exact Nat.lt_add_of_pos_right (List.length_pos_iff.mpr hne)

theorem separate_symm {whole : Bool} {r s : Span} (h : Separate whole r s) :
    Separate whole s r := by
  unfold Separate at h ⊢
  split at h <;> simp_all only [↓reduceIte, Bool.false_eq_true] <;> omega

/-- A span that is separate from the stretch in front begins behind it. -/
theorem start_ge_of_separate {whole : Bool} {i n : Nat} {r : Span} (hi : i ≤ r.start)
    (hr : r.start < r.stop) (h : Separate whole ⟨i, i + n⟩ r) :
    i + n ≤ r.start ∧ (whole = true → i + n < r.start) := by
  unfold Separate at h
  cases whole <;> simp at h <;> simp <;> omega

/-- Where one cut begins with a hit, another one that is separate from it keeps its characters. -/
theorem exists_keeps_of_hit (whole : Bool) (i : Nat) {v rest : List Char} {ys : List Piece}
    (hy : Solid ys) (ht : textOf ys = v ++ rest)
    (hs : ∀ r ∈ spansFrom List.length i ys, Separate whole ⟨i, i + v.length⟩ r) :
    ∃ zs, ys = v.map .keep ++ zs ∧ textOf zs = rest ∧
      (whole = true → ∀ r ∈ spansFrom List.length (i + v.length) zs, r.start ≠ i + v.length) := by
  have hbehind : ∀ r ∈ spansFrom List.length i ys,
      i + v.length ≤ r.start ∧ (whole = true → i + v.length < r.start) := fun r hr =>
    start_ge_of_separate (spansFrom_bounds hr).1 (solid_spans hy r hr) (hs r hr)
  obtain ⟨zs, rfl⟩ := exists_keeps hy ht fun r hr => (hbehind r hr).1
  rw [textOf_append, textOf_keeps] at ht
  rw [spansFrom_keeps] at hbehind
  exact ⟨zs, rfl, List.append_cancel_left ht, fun hw r hr => Nat.ne_of_gt ((hbehind r hr).2 hw)⟩

theorem isHit_head?_of_start {i : Nat} {xs : List Piece}
    (h : ∀ r ∈ spansFrom List.length i xs, r.start ≠ i) : ∀ x ∈ xs.head?, x.isHit = false := by
  intro x hx
  obtain ⟨us, rfl⟩ := List.head?_eq_some_iff.mp hx
  cases x with
  | keep c => rfl
  | hit v => exact absurd rfl (h _ List.mem_cons_self)

/-- Two cuts of one text with separate hits can be joined. -/
theorem exists_joins {whole : Bool} (beside : Bool) (i : Nat) {xs ys : List Piece} (hx : Solid xs)
    (hy : Solid ys) (ht : textOf xs = textOf ys)
    (hs : ∀ r ∈ spansFrom List.length i xs, ∀ s ∈ spansFrom List.length i ys, Separate whole r s)
    (hb : beside = true → whole = true → ∀ s ∈ spansFrom List.length i ys, s.start ≠ i) :
    ∃ zs, Joins whole beside xs ys zs := by
  -- a hit of one cut takes its characters from the other, so both lists together get shorter
  induction hn : xs.length + ys.length using Nat.strongRecOn generalizing beside i xs ys with
  | ind n ih =>
    cases xs with
    | nil =>
      obtain rfl := eq_nil_of_textOf hy ht.symm
      exact ⟨[], .nil⟩
    | cons x xs =>
      have hx' := (solid_cons.mp hx).2
      cases x with
      | hit v =>
        obtain ⟨ys, rfl, hrest, hapart⟩ := exists_keeps_of_hit whole i hy ht.symm
          (hs _ List.mem_cons_self)
        rw [spansFrom_keeps] at hs
        rw [List.length_cons, List.length_append] at hn
        obtain ⟨zs, hz⟩ := ih (xs.length + ys.length) (by omega) true (i + v.length) hx'
          (solid_append.mp hy).2 hrest.symm (fun r hr => hs r (List.mem_cons_of_mem _ hr))
          (fun _ => hapart) rfl
        exact ⟨_, .left v hz⟩
      | keep c =>
        cases ys with
        | nil => cases ht
        | cons y ys =>
          have hy' := (solid_cons.mp hy).2
          cases y with
          | keep d =>
            obtain ⟨rfl, hrest⟩ := List.cons.inj (show c :: textOf xs = d :: textOf ys from ht)
            rw [List.length_cons, List.length_cons] at hn
            obtain ⟨zs, hz⟩ := ih (xs.length + ys.length) (by omega) false (i + 1)
              hx' hy' hrest hs nofun rfl
            exact ⟨_, .keep c hz⟩
          | hit v =>
            obtain ⟨us, hus, hrest, hapart⟩ := exists_keeps_of_hit whole i hx ht
              fun r hr => separate_symm (hs r hr _ List.mem_cons_self)
            rw [hus] at hx hs hn ⊢
            rw [spansFrom_keeps] at hs
            rw [List.length_cons, List.length_append] at hn
            obtain ⟨zs, hz⟩ := ih (us.length + ys.length) (by omega) false (i + v.length)
              (solid_append.mp hx).2 hy' hrest
              (fun r hr s hs' => hs r hr s (List.mem_cons_of_mem _ hs')) nofun rfl
            refine ⟨_, .right v (fun hw => ⟨?_, isHit_head?_of_start (hapart hw)⟩) hz⟩
            rw [← Bool.not_eq_true]
            exact fun hbeside => hb hbeside hw _ List.mem_cons_self rfl

end Passage.Match
