import Passage.Proofs.Numeral

/-!
# Numbers in groups of three digits

A number is grouped from its last three digits on, and reads the same as its decimal form
scanned from the front, with a comma wherever whole groups of three are left. So the commas
can be taken out again, and no two numbers are grouped alike.
-/

namespace Passage.Numeral

/-- A text with a comma wherever a number of characters is left that three divides. -/
def punctuate : List Char → List Char
  | [] => []
  | c :: s => if s ≠ [] ∧ 3 ∣ s.length then c :: ',' :: punctuate s else c :: punctuate s

/-! ## The last three digits -/

theorem length_threeDigits (n : Nat) : (threeDigits n).length = 3 := rfl

theorem not_mem_threeDigits (n : Nat) : ',' ∉ threeDigits n := by
  have hdigit : ∀ d < 10, ',' ≠ Nat.digitChar d := by decide
  simp [threeDigits, hdigit, Nat.mod_lt]

theorem not_mem_decimal (n : Nat) : ',' ∉ decimal n := fun h =>
  absurd (isDigit_of_mem_decimal h) (by decide)

theorem decimal_eq_append {n : Nat} (h : 1000 ≤ n) :
    decimal n = decimal (n / 1000) ++ threeDigits n := by
  have hstep : ∀ m, 10 ≤ m → decimal m = decimal (m / 10) ++ [Nat.digitChar (m % 10)] :=
    fun m hm => Nat.toDigits_of_base_le (by decide) hm
  have hhundreds : n / 10 / 10 = n / 100 := Nat.div_div_eq_div_mul n 10 10
  have hthousands : n / 100 / 10 = n / 1000 := Nat.div_div_eq_div_mul n 100 10
  rw [hstep n (by omega), hstep (n / 10) (by omega), hhundreds, hstep (n / 100) (by omega),
    hthousands]
  simp [threeDigits]

theorem length_decimal_le {n : Nat} (h : n < 1000) : (decimal n).length ≤ 3 :=
  (Nat.length_toDigits_le_iff (by decide) (by decide)).mpr h

/-! ## Groups -/

theorem grouped_of_lt {n : Nat} (h : n < 1000) : grouped n = decimal n := by
  rw [grouped, if_pos h]

theorem grouped_of_le {n : Nat} (h : 1000 ≤ n) :
    grouped n = grouped (n / 1000) ++ ',' :: threeDigits n := by
  rw [grouped, if_neg (Nat.not_lt.mpr h)]

theorem filter_grouped (n : Nat) : (grouped n).filter (· ≠ ',') = decimal n := by
  have hkeep : ∀ s : List Char, ',' ∉ s → s.filter (· ≠ ',') = s := by
    intro s hs
    refine List.filter_eq_self.mpr fun c hc => ?_
    simpa using ne_of_mem_of_not_mem hc hs
  induction n using grouped.induct with
  | case1 n h => rw [grouped_of_lt h, hkeep _ (not_mem_decimal n)]
  | case2 n h ih =>
    have hn : 1000 ≤ n := Nat.not_lt.mp h
    rw [grouped_of_le hn, List.filter_append, ih, List.filter_cons_of_neg (by decide),
      hkeep _ (not_mem_threeDigits n), ← decimal_eq_append hn]

/-- The parts between the commas: one to three characters in the first, three in each other. -/
theorem splitOn_grouped (n : Nat) : ∃ first rest, (grouped n).splitOn ',' = first :: rest ∧
    1 ≤ first.length ∧ first.length ≤ 3 ∧ ∀ g ∈ rest, g.length = 3 := by
  induction n using grouped.induct with
  | case1 n h =>
    refine ⟨decimal n, [], ?_, ?_, length_decimal_le h, List.forall_mem_nil _⟩
    · rw [grouped_of_lt h, List.splitOn_eq_singleton (not_mem_decimal n)]
    · exact List.length_pos_iff.mpr (decimal_ne_nil n)
  | case2 n h ih =>
    obtain ⟨first, rest, hsplit, hpos, hle, hrest⟩ := ih
    refine ⟨first, rest ++ [threeDigits n], ?_, hpos, hle, ?_⟩
    · rw [grouped_of_le (Nat.not_lt.mp h), List.splitOn_append_cons_self, hsplit,
        List.splitOn_eq_singleton (not_mem_threeDigits n), List.cons_append]
    · intro g hg
      rcases List.mem_append.mp hg with hg | hg
      · exact hrest g hg
      · rw [List.mem_singleton.mp hg, length_threeDigits]

/-- A text with something in each part has no comma at its ends and no two in a row. -/
theorem separated_of_splitOn {s : List Char} (h : [] ∉ s.splitOn ',') :
    s.head? ≠ some ',' ∧ s.getLast? ≠ some ',' ∧ ¬ [',', ','] <:+: s := by
  have hempty : ([] : List Char).splitOn ',' = [[]] := rfl
  refine ⟨fun hhead => ?_, fun hlast => ?_, fun ⟨front, back, hs⟩ => ?_⟩
  · obtain ⟨t, rfl⟩ := List.head?_eq_some_iff.mp hhead
    apply h
    rw [← List.nil_append (',' :: t), List.splitOn_append_cons_self, hempty]
    exact List.mem_append_left _ List.mem_cons_self
  · obtain ⟨t, rfl⟩ := List.getLast?_eq_some_iff.mp hlast
    apply h
    rw [List.splitOn_append_cons_self, hempty]
    exact List.mem_append_right _ List.mem_cons_self
  · apply h
    have hmiddle : s = front ++ ',' :: ([] ++ ',' :: back) := by
      rw [← hs]
      simp
    rw [hmiddle, List.splitOn_append_cons_self, List.splitOn_append_cons_self, hempty]
    exact List.mem_append_right _ (List.mem_append_left _ List.mem_cons_self)

/-! ## Scanning from the front -/

theorem punctuate_of_length_le {s : List Char} (h : s.length ≤ 3) : punctuate s = s := by
  induction s with
  | nil => rfl
  | cons c s ih =>
    rw [List.length_cons] at h
    have hno : ¬ (s ≠ [] ∧ 3 ∣ s.length) := by
      rintro ⟨hne, hdvd⟩
      have hpos := List.length_pos_iff.mpr hne
      omega
    rw [punctuate, if_neg hno, ih (by omega)]

/-- Three characters more at the end leave every remainder as it is. -/
theorem punctuate_append {s t : List Char} (hs : s ≠ []) (ht : t.length = 3) :
    punctuate (s ++ t) = punctuate s ++ ',' :: t := by
  induction s with
  | nil => exact absurd rfl hs
  | cons c s ih =>
    rw [List.cons_append, punctuate, punctuate]
    by_cases hnil : s = []
    · subst hnil
      have hne : t ≠ [] := List.length_pos_iff.mp (by omega)
      rw [List.nil_append, if_pos ⟨hne, ht ▸ Nat.dvd_refl 3⟩,
        punctuate_of_length_le (Nat.le_of_eq ht)]
      rfl
    · have hdvd : s ++ t ≠ [] ∧ 3 ∣ (s ++ t).length ↔ s ≠ [] ∧ 3 ∣ s.length := by
        rw [List.length_append, ht, Nat.dvd_add_left (Nat.dvd_refl 3)]
        simp [hnil]
      rw [ih hnil]
      by_cases h : s ≠ [] ∧ 3 ∣ s.length
      · rw [if_pos (hdvd.mpr h), if_pos h, List.cons_append, List.cons_append]
      · rw [if_neg (mt hdvd.mp h), if_neg h, List.cons_append]

theorem grouped_eq_punctuate (n : Nat) : grouped n = punctuate (decimal n) := by
  induction n using grouped.induct with
  | case1 n h => rw [grouped_of_lt h, punctuate_of_length_le (length_decimal_le h)]
  | case2 n h ih =>
    have hn : 1000 ≤ n := Nat.not_lt.mp h
    rw [grouped_of_le hn, ih, decimal_eq_append hn,
      punctuate_append (decimal_ne_nil _) (length_threeDigits n)]

/-- Grouping puts commas among the digits of a number and does nothing else. They stand where whole
groups of three digits are left, and so the first group has one to three digits and every other
three. No comma is at an end or beside another, and the number can be told from its groups. -/
theorem grouped_in_threes :
    Function.Injective grouped ∧
    ∀ n, grouped n = punctuate (decimal n) ∧
      (grouped n).filter (· ≠ ',') = decimal n ∧
      (∃ first rest, (grouped n).splitOn ',' = first :: rest ∧
        1 ≤ first.length ∧ first.length ≤ 3 ∧ ∀ g ∈ rest, g.length = 3) ∧
      (grouped n).head? ≠ some ',' ∧ (grouped n).getLast? ≠ some ',' ∧
      ¬ [',', ','] <:+: grouped n := by
  constructor
  · intro m n h
    rw [← value_decimal m, ← filter_grouped m, h, filter_grouped, value_decimal]
  · intro n
    obtain ⟨first, rest, hsplit, hpos, hle, hrest⟩ := splitOn_grouped n
    have hparts : [] ∉ (grouped n).splitOn ',' := by
      rw [hsplit, List.mem_cons, not_or]
      refine ⟨?_, fun h => absurd (hrest [] h) (by decide)⟩
      exact (List.length_pos_iff.mp hpos).symm
    exact ⟨grouped_eq_punctuate n, filter_grouped n, ⟨first, rest, hsplit, hpos, hle, hrest⟩,
      separated_of_splitOn hparts⟩

end Passage.Numeral
