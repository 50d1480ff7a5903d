import Passage.Match.Mark

/-!
# Where a term occurs

The small relation below says by positions what it means that a term stands in a
text. It does not mention how a text is cut or how a match is searched. The cutting
of a text is then shown to find an occurrence exactly where there is one.
-/

namespace Passage.Match

open Text

/-! ## The relation -/

/-- Equal characters, and where case is ignored those that differ in case only. -/
def Agree (o : Options) (a b : Char) : Prop := a = b ∨ o.caseSensitive = false ∧ CaseFold.same a b

def WordAt (text : List Char) (i : Nat) : Prop := ∃ c, text[i]? = some c ∧ isWord c

/-- Exactly one of the two neighbours of the position is a word character. -/
def EdgeAt (text : List Char) (i : Nat) : Prop := (0 < i ∧ WordAt text (i - 1)) ↔ ¬ WordAt text i

/-- The stretch holds word characters only and cannot be continued. -/
structure MaximalRun (text : List Char) (i j : Nat) : Prop where
  ordered : i ≤ j
  words : ∀ k, i ≤ k → k < j → WordAt text k
  stops : ¬ WordAt text j

/-- The term stands in the text from position `i` to position `j`. -/
structure OccursAt (t : Query.Term) (o : Options) (text : List Char) (i j : Nat) : Prop where
  inside : i ≤ text.length
  agrees : ∀ (k : Nat) (a : Char), t.value.toList[k]? = some a →
    ∃ b, text[i + k]? = some b ∧ Agree o a b
  stop : if t.kind = .plain ∧ t.wildcard then MaximalRun text (i + t.value.length) j
    else j = i + t.value.length
  edges : o.wholeWord → EdgeAt text i ∧ EdgeAt text j

def Occurs (t : Query.Term) (o : Options) (text : List Char) : Prop := ∃ i j, OccursAt t o text i j

/-! ## The parts of an occurrence -/

theorem agrees_iff (t : Query.Term) (o : Options) (a b : Char) :
    (Pattern.ofTerm t o).agrees a b ↔ Agree o a b := by
  change (if o.caseSensitive then a == b else CaseFold.same a b) = true ↔ _
  cases hs : o.caseSensitive with
  | true => simp [Agree, hs]
  | false =>
    simp only [Agree, hs, Bool.false_eq_true, ↓reduceIte, true_and]
    constructor
    · exact Or.inr
    · intro h
      rcases h with rfl | h
      · simp [CaseFold.same]
      · exact h

theorem literalAt_iff (p : Pattern) (as text : List Char) :
    p.literalAt as text ↔
      ∀ (k : Nat) (a : Char), as[k]? = some a → ∃ b, text[k]? = some b ∧ p.agrees a b := by
  induction as generalizing text with
  | nil => simp [Pattern.literalAt]
  | cons a as ih =>
    cases text with
    | nil =>
      constructor
      · intro h; simp [Pattern.literalAt] at h
      · intro h
        obtain ⟨b, hb, _⟩ := h 0 a rfl
        simp at hb
    | cons b bs =>
      rw [Pattern.literalAt, Bool.and_eq_true, ih]
      constructor
      · rintro ⟨h, hs⟩ k c hk
        cases k with
        | zero =>
          obtain rfl : a = c := by simpa using hk
          exact ⟨b, rfl, h⟩
        | succ k => exact hs k c (by simpa using hk)
      · intro h
        constructor
        · obtain ⟨c, hc, ha⟩ := h 0 a rfl
          obtain rfl : b = c := by simpa using hc
          exact ha
        · intro k c hk
          exact h (k + 1) c (by simpa using hk)

theorem wordAt_iff (text : List Char) (i : Nat) : WordAt text i ↔ text[i]?.any isWord := by
  simp [WordAt, Option.any_eq_true]

theorem wordAt_drop (text : List Char) (m k : Nat) :
    WordAt (text.drop m) k ↔ WordAt text (m + k) := by
  rw [WordAt, WordAt, List.getElem?_drop]

theorem maximalRun_drop (text : List Char) (m j : Nat) :
    MaximalRun (text.drop m) 0 j ↔ MaximalRun text m (m + j) := by
  constructor
  · intro h
    obtain ⟨_, hw, hs⟩ := h
    refine ⟨by omega, fun k hk hj => ?_, fun h => hs ((wordAt_drop text m j).mpr h)⟩
    have h := (wordAt_drop text m (k - m)).mp (hw (k - m) (by omega) (by omega))
    rwa [show m + (k - m) = k from by omega] at h
  · intro h
    obtain ⟨_, hw, hs⟩ := h
    refine ⟨by omega, fun k _ hj => ?_, fun h => hs ((wordAt_drop text m j).mp h)⟩
    exact (wordAt_drop text m k).mpr (hw (m + k) (by omega) (by omega))

/-- The leading word characters of a text are its one maximal run from the start. -/
theorem maximalRun_takeWhile (text : List Char) :
    MaximalRun text 0 (text.takeWhile isWord).length := by
  induction text with
  | nil => exact ⟨Nat.le_refl 0, by simp, by simp [WordAt]⟩
  | cons c text ih =>
    by_cases hc : isWord c
    · rw [List.takeWhile_cons_of_pos hc, List.length_cons]
      refine ⟨by omega, fun k _ hk => ?_, ?_⟩
      · cases k with
        | zero => exact ⟨c, rfl, hc⟩
        | succ k =>
          obtain ⟨d, hd, hw⟩ := ih.words k (by omega) (by omega)
          exact ⟨d, by simpa using hd, hw⟩
      · intro h
        obtain ⟨d, hd, hw⟩ := h
        exact ih.stops ⟨d, by simpa using hd, hw⟩
    · rw [List.takeWhile_cons_of_neg hc]
      refine ⟨Nat.le_refl 0, by simp, ?_⟩
      intro h
      obtain ⟨d, hd, hw⟩ := h
      obtain rfl : c = d := by simpa using hd
      exact hc hw

theorem MaximalRun.unique {text : List Char} {i j k : Nat} (hj : MaximalRun text i j)
    (hk : MaximalRun text i k) : j = k := by
  rcases Nat.lt_trichotomy j k with h | h | h
  · exact absurd (hk.words j hj.ordered h) hj.stops
  · exact h
  · exact absurd (hj.words k hk.ordered h) hk.stops

theorem maximalRun_iff (text : List Char) (m j : Nat) :
    MaximalRun text m j ↔ j = m + ((text.drop m).takeWhile isWord).length := by
  have h := (maximalRun_drop text m _).mp (maximalRun_takeWhile (text.drop m))
  constructor
  · intro hj
    exact hj.unique h
  · intro hj
    rw [hj]
    exact h

/-- The character in front of a position, `before` standing in front of the text. -/
def prior (before : Option Char) (text : List Char) (i : Nat) : Option Char :=
  if i = 0 then before else text[i - 1]?

theorem prior_succ (before : Option Char) (c : Char) (text : List Char) (i : Nat) :
    prior before (c :: text) (i + 1) = prior (some c) text i := by
  cases i <;> simp [prior]

theorem isBoundary_iff (text : List Char) (i : Nat) :
    isBoundary (prior none text i) text[i]? ↔ EdgeAt text i := by
  rw [isBoundary, bne_iff_ne, ne_eq, Bool.eq_iff_iff, EdgeAt, wordAt_iff, wordAt_iff]
  cases i with
  | zero => simp [prior]
  | succ i =>
    simp only [prior, Nat.add_eq_zero_iff, Nat.one_ne_zero, and_false, ↓reduceIte,
      Nat.add_sub_cancel, Nat.zero_lt_succ, true_and]
    cases Option.any isWord text[i]? <;> simp

theorem isBoundaryAt_drop (before : Option Char) (text : List Char) (i n : Nat) :
    Pattern.isBoundaryAt (prior before text i) (text.drop i) n =
      isBoundary (prior before text (i + n)) text[i + n]? := by
  cases n with
  | zero => rw [Pattern.isBoundaryAt, List.head?_drop, Nat.add_zero]
  | succ n =>
    rw [Pattern.isBoundaryAt, List.getElem?_drop, List.getElem?_drop, ← Nat.add_assoc]
    simp [prior]

/-! ## Occurrences at one position -/

theorem literalAt_ofTerm_iff (t : Query.Term) (o : Options) (text : List Char) (i : Nat) :
    (Pattern.ofTerm t o).literalAt (Pattern.ofTerm t o).literal (text.drop i) ↔
      ∀ (k : Nat) (a : Char), t.value.toList[k]? = some a →
        ∃ b, text[i + k]? = some b ∧ Agree o a b := by
  rw [literalAt_iff]
  simp only [agrees_iff, List.getElem?_drop]
  rfl

/-- The length of a match at the head of the text, if its literal stands there. -/
def Pattern.reach (p : Pattern) (s : List Char) : Nat :=
  p.literal.length + if p.openEnded then ((s.drop p.literal.length).takeWhile isWord).length else 0

theorem lengthAt?_eq_some {p : Pattern} {before : Option Char} {s : List Char} {n : Nat} :
    p.lengthAt? before s = some n ↔ p.literalAt p.literal s ∧ n = p.reach s ∧
      (p.options.wholeWord → isBoundary before s.head? ∧ Pattern.isBoundaryAt before s n) := by
  have heq : p.lengthAt? before s = if p.literalAt p.literal s then
      if !p.options.wholeWord ||
        (isBoundary before s.head? && Pattern.isBoundaryAt before s (p.reach s))
      then some (p.reach s) else none
    else none := rfl
  rw [heq]
  by_cases hl : p.literalAt p.literal s
  · simp only [hl, ↓reduceIte, true_and]
    split
    · next hc =>
      rw [Option.some.injEq]
      constructor
      · intro hn
        refine ⟨hn.symm, fun h => ?_⟩
        rw [← hn]
        simpa [h] using hc
      · exact fun h => h.1.symm
    · next hc =>
      simp only [reduceCtorEq, false_iff, not_and]
      intro hn h
      subst hn
      cases hw : p.options.wholeWord <;> simp_all
  · simp [hl]

theorem length_le_of_literalAt {p : Pattern} {l s : List Char} (h : p.literalAt l s) :
    l.length ≤ s.length := by
  induction l generalizing s with
  | nil => exact Nat.zero_le _
  | cons a l ih =>
    cases s with
    | nil => cases h
    | cons b s =>
      rw [Pattern.literalAt, Bool.and_eq_true] at h
      exact Nat.succ_le_succ (ih h.2)

theorem reach_le {p : Pattern} {s : List Char} (h : p.literalAt p.literal s) :
    p.reach s ≤ s.length := by
  have hl := length_le_of_literalAt h
  have hrun := (List.takeWhile_prefix isWord (l := s.drop p.literal.length)).length_le
  rw [List.length_drop] at hrun
  rw [Pattern.reach]
  split <;> omega

theorem length_le_of_lengthAt? {p : Pattern} {before : Option Char} {s : List Char} {n : Nat}
    (h : p.lengthAt? before s = some n) : n ≤ s.length := by
  obtain ⟨hl, rfl, _⟩ := lengthAt?_eq_some.mp h
  exact reach_le hl

theorem stop_iff (t : Query.Term) (o : Options) (text : List Char) (i j : Nat) :
    (if t.kind = .plain ∧ t.wildcard then MaximalRun text (i + t.value.length) j
      else j = i + t.value.length) ↔ j = i + (Pattern.ofTerm t o).reach (text.drop i) := by
  have hl : (Pattern.ofTerm t o).literal.length = t.value.length := String.length_toList
  have ho : (Pattern.ofTerm t o).openEnded = true ↔ t.kind = .plain ∧ t.wildcard := by
    simp [Pattern.ofTerm]
  simp only [Pattern.reach, hl, ho, List.drop_drop, ← Nat.add_assoc]
  split
  · exact maximalRun_iff text _ j
  · rfl

theorem occursAt_iff (t : Query.Term) (o : Options) (text : List Char) (i j : Nat) :
    OccursAt t o text i j ↔ i ≤ text.length ∧
      (Pattern.ofTerm t o).literalAt (Pattern.ofTerm t o).literal (text.drop i) ∧
      j = i + (Pattern.ofTerm t o).reach (text.drop i) ∧
      (o.wholeWord → EdgeAt text i ∧ EdgeAt text j) := by
  rw [literalAt_ofTerm_iff, ← stop_iff]
  exact ⟨fun h => ⟨h.inside, h.agrees, h.stop, h.edges⟩, fun ⟨a, b, c, d⟩ => ⟨a, b, c, d⟩⟩

theorem lengthAt?_eq_some_iff (t : Query.Term) (o : Options) (text : List Char) {i : Nat}
    (hi : i ≤ text.length) (n : Nat) :
    (Pattern.ofTerm t o).lengthAt? (prior none text i) (text.drop i) = some n ↔
      OccursAt t o text i (i + n) := by
  have hw : (Pattern.ofTerm t o).options.wholeWord = o.wholeWord := rfl
  rw [occursAt_iff, and_iff_right hi, lengthAt?_eq_some, hw, isBoundaryAt_drop, List.head?_drop,
    isBoundary_iff, isBoundary_iff, Nat.add_left_cancel_iff]

/-! ## Occurrences in a text -/

theorem any_isHit_cut (p : Pattern) (before : Option Char) (s : List Char) :
    (p.cut before false s).any Piece.isHit ↔
      ∃ i ≤ s.length, (p.lengthAt? (prior before s i) (s.drop i)).isSome := by
  induction s generalizing before with
  | nil =>
    rw [Pattern.cut]
    constructor
    · intro h
      refine ⟨0, Nat.le_refl 0, ?_⟩
      cases hl : (p.lengthAt? before []).isSome with
      | true => simpa [prior] using hl
      | false => simp [hl] at h
    · intro h
      obtain ⟨i, hi, h⟩ := h
      obtain rfl : i = 0 := by simpa using hi
      have h' : (p.lengthAt? before []).isSome := by simpa [prior] using h
      simp [h', Piece.isHit]
  | cons c rest ih =>
    have head : prior before (c :: rest) 0 = before := rfl
    rw [Pattern.cut]
    split
    · next hn =>
      rw [List.any_cons, Piece.isHit, Bool.false_or, ih (some c)]
      constructor
      · intro h
        obtain ⟨i, hi, h⟩ := h
        exact ⟨i + 1, by simpa using hi, by rwa [prior_succ, List.drop_succ_cons]⟩
      · intro h
        obtain ⟨i, hi, h⟩ := h
        cases i with
        | zero => rw [head, List.drop_zero, hn] at h; cases h
        | succ i =>
          refine ⟨i, by simpa using hi, ?_⟩
          rwa [prior_succ, List.drop_succ_cons] at h
    · next hn =>
      simp only [Bool.false_eq_true, ↓reduceIte, List.any_cons, Piece.isHit, Bool.true_or, true_iff]
      exact ⟨0, by omega, by rw [head, List.drop_zero, hn]; rfl⟩
    · next n hn =>
      simp only [List.any_cons, Piece.isHit, Bool.true_or, true_iff]
      exact ⟨0, by omega, by rw [head, List.drop_zero, hn]; rfl⟩

/-- A pattern is found in a text exactly if its term occurs there. -/
theorem occursIn_iff (t : Query.Term) (o : Options) (text : List Char) :
    (Pattern.ofTerm t o).occursIn text ↔ Occurs t o text := by
  rw [Pattern.occursIn, Pattern.pieces, any_isHit_cut]
  constructor
  · intro h
    obtain ⟨i, hi, h⟩ := h
    obtain ⟨n, hn⟩ := Option.isSome_iff_exists.mp h
    exact ⟨i, i + n, (lengthAt?_eq_some_iff t o text hi n).mp hn⟩
  · intro h
    obtain ⟨i, j, h⟩ := h
    have hj : i + (j - i) = j := by
      have hs := ((occursAt_iff t o text i j).mp h).2.2.1
      omega
    refine ⟨i, h.inside, Option.isSome_iff_exists.mpr ⟨j - i, ?_⟩⟩
    rw [lengthAt?_eq_some_iff t o text h.inside, hj]
    exact h

end Passage.Match
