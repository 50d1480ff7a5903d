import Passage.Text.Blank

/-!
# Trimmed texts

Trimming yields a text with no blank at its ends and changes no such text. So it may be
done twice, and blanks put around a text do not outlast it.
-/

namespace Passage.Text

/-- The characters of a text are checked one by one, and not all characters there are. -/
instance decidableForallMem {p : Char → Prop} [DecidablePred p] (s : List Char) :
    Decidable (∀ c ∈ s, p c) :=
  List.decidableBAll p s

structure Trimmed (s : List Char) : Prop where
  front : ∀ c ∈ s.head?, isBlank c = false
  back : ∀ c ∈ s.getLast?, isBlank c = false

instance (s : List Char) : Decidable (Trimmed s) :=
  decidable_of_iff (s.head?.all (!isBlank ·) ∧ s.getLast?.all (!isBlank ·)) (by
    simp only [Option.all_eq_true, Bool.not_eq_true']
    exact ⟨fun ⟨a, b⟩ => ⟨a, b⟩, fun ⟨a, b⟩ => ⟨a, b⟩⟩)

theorem trimLeft_of_front {s : List Char} (h : ∀ c ∈ s.head?, isBlank c = false) :
    trimLeft s = s := by
  cases s with
  | nil => rfl
  | cons c s => rw [trimLeft, List.dropWhile_cons_of_neg (by rw [h c rfl]; decide)]

theorem trimRight_of_back {s : List Char} (h : ∀ c ∈ s.getLast?, isBlank c = false) :
    trimRight s = s := by
  have hr : trimLeft s.reverse = s.reverse := by
    apply trimLeft_of_front
    rwa [List.head?_reverse]
  rw [trimRight, ← trimLeft, hr, List.reverse_reverse]

theorem trim_of_trimmed {s : List Char} (h : Trimmed s) : trim s = s := by
  rw [trim, trimLeft_of_front h.front, trimRight_of_back h.back]

theorem front_trimLeft (s : List Char) : ∀ c ∈ (trimLeft s).head?, isBlank c = false := by
  intro c hc
  have h := List.head?_dropWhile_not isBlank s
  rw [trimLeft] at hc
  rw [hc] at h
  simpa using h

theorem trimRight_prefix (s : List Char) : trimRight s <+: s := by
  have h : s.reverse.dropWhile isBlank <:+ s.reverse := List.dropWhile_suffix isBlank
  rwa [← List.reverse_prefix, List.reverse_reverse] at h

theorem trimmed_trim (s : List Char) : Trimmed (trim s) := by
  constructor
  · intro c hc
    obtain ⟨rest, hrest⟩ := List.head?_eq_some_iff.mp hc
    obtain ⟨back, hback⟩ := trimRight_prefix (trimLeft s)
    apply front_trimLeft s c
    rw [← hback, ← trim, hrest]
    rfl
  · intro c hc
    rw [trim, trimRight, List.getLast?_reverse] at hc
    exact front_trimLeft _ c hc

theorem trim_trim (s : List Char) : trim (trim s) = trim s :=
  trim_of_trimmed (trimmed_trim s)

theorem trim_cons_blank {c : Char} (hc : isBlank c) (s : List Char) : trim (c :: s) = trim s := by
  rw [trim, trimLeft, List.dropWhile_cons_of_pos hc, ← trimLeft, ← trim]

theorem trim_blanks_append {gap : List Char} (h : ∀ c ∈ gap, isBlank c) (s : List Char) :
    trim (gap ++ s) = trim s := by
  induction gap with
  | nil => rfl
  | cons c gap ih =>
    obtain ⟨hc, hgap⟩ := List.forall_mem_cons.mp h
    rw [List.cons_append, trim_cons_blank hc, ih hgap]

theorem trim_append_blank {c : Char} (hc : isBlank c) (s : List Char) :
    trim (s ++ [c]) = trim s := by
  have hr : ∀ t : List Char, trimRight (t ++ [c]) = trimRight t := by
    intro t
    rw [trimRight, List.reverse_append, List.reverse_singleton, List.singleton_append,
      List.dropWhile_cons_of_pos hc, ← trimRight]
  rw [trim, trimLeft, List.dropWhile_append]
  split
  · next h =>
    have hs : trimLeft s = [] := List.isEmpty_iff.mp h
    rw [List.dropWhile_cons_of_pos hc, trim, hs]
    rfl
  · rw [hr, ← trimLeft, ← trim]

theorem trim_append_blanks {gap : List Char} (h : ∀ c ∈ gap, isBlank c) (s : List Char) :
    trim (s ++ gap) = trim s := by
  induction gap generalizing s with
  | nil => rw [List.append_nil]
  | cons c gap ih =>
    obtain ⟨hc, hgap⟩ := List.forall_mem_cons.mp h
    rw [List.append_cons, ih hgap, trim_append_blank hc]

/-- Trimming takes away blanks at the two ends and nothing else. -/
theorem exists_around_trim (s : List Char) :
    ∃ front back, s = front ++ (trim s ++ back) ∧
      (∀ c ∈ front, isBlank c) ∧ ∀ c ∈ back, isBlank c := by
  refine ⟨s.takeWhile isBlank, ((trimLeft s).reverse.takeWhile isBlank).reverse, ?_, ?_, ?_⟩
  · rw [trim, trimRight, ← List.reverse_append, List.takeWhile_append_dropWhile,
      List.reverse_reverse, trimLeft, List.takeWhile_append_dropWhile]
  · exact List.all_eq_true.mp List.all_takeWhile
  · exact fun c hc => List.all_eq_true.mp List.all_takeWhile c (List.mem_reverse.mp hc)

theorem trim_ne_nil {s : List Char} {c : Char} (hs : c ∈ s) (hc : isBlank c = false) :
    trim s ≠ [] := by
  intro h
  obtain ⟨front, back, heq, hfront, hback⟩ := exists_around_trim s
  rw [heq, h, List.nil_append] at hs
  have hblank := (List.mem_append.mp hs).elim (hfront c) (hback c)
  rw [hc] at hblank
  cases hblank

end Passage.Text
