import Mathlib.Data.List.TakeWhile
import Passage.Proofs.Numeral
import Passage.Proofs.Toml.Strings
import Passage.Toml.Reader

/-!
# Values read back

What is written for a setting is read as an item of its kind that holds the same: a text as
a string, a number as a whole number, a flag as a truth value. A word of digits alone is
nothing but a whole number.
-/

namespace Passage.Toml

open Numeral (decimal digitValue digit? isDigit_of_mem_decimal decimal_ne_nil)

/-! ## Words -/

theorem digit?_of_isDigit {c : Char} (h : c.isDigit) : digit? 10 c = some (digitValue c) := by
  simp only [Char.isDigit, Bool.and_eq_true, decide_eq_true_eq, ge_iff_le, UInt32.le_iff_toNat_le,
    Char.toNat_val] at h
  have hle : '0' ≤ c ∧ c ≤ '9' := by
    simpa only [Char.le_def, UInt32.le_iff_toNat_le, Char.toNat_val] using h
  have hlt : c.toNat - 48 < 10 := by
    have h9 : c.toNat ≤ 57 := h.2
    omega
  simp [digit?, Numeral.hexDigit?, hle.1, hle.2, digitValue, hlt]

theorem digitsFrom?_of_digits {s : List Char} (hs : ∀ c ∈ s, c.isDigit) (n : Nat) :
    digitsFrom? 10 n s = some (s.foldl (fun n c => 10 * n + digitValue c) n) := by
  induction s generalizing n with
  | nil => rfl
  | cons c s ih =>
    obtain ⟨hc, hs⟩ := List.forall_mem_cons.mp hs
    rw [digitsFrom?, digit?_of_isDigit hc, Option.bind_some, ih hs, List.foldl_cons]
    rintro _ _ rfl
    exact absurd hc (by decide)

theorem natural?_decimal (n : Nat) : natural? (decimal n) = some n := by
  by_cases hn : n = 0
  · subst hn
    rfl
  · have hs : ∀ c ∈ decimal n, c.isDigit := fun _ hc => isDigit_of_mem_decimal hc
    have hvalue := Numeral.value_decimal n
    obtain ⟨c, s, hc⟩ := List.exists_cons_of_ne_nil (decimal_ne_nil n)
    have hzero := Numeral.head?_decimal hn
    rw [hc] at hs hvalue hzero ⊢
    have hne : c ≠ '0' := by simpa using hzero
    have hline : c ≠ '_' := by
      rintro rfl
      exact absurd (hs '_' List.mem_cons_self) (by decide)
    rw [natural?, digits?, digitsFrom?_of_digits hs, ← hvalue, Numeral.value]
    all_goals grind

/-- Digits are no date, no time and no number with a fraction or an exponent. -/
theorem isFullDate_of_digits {s : List Char} (hs : ∀ c ∈ s, c.isDigit) : isFullDate s = false := by
  unfold isFullDate
  split
  · exact absurd (hs '-' (by simp)) (by decide)
  · rfl

theorem afterTime?_of_digits {s : List Char} (hs : ∀ c ∈ s, c.isDigit) : afterTime? s = none := by
  unfold afterTime?
  split
  · exact absurd (hs ':' (by simp)) (by decide)
  · rfl

theorem isDate_of_digits {s : List Char} (hs : ∀ c ∈ s, c.isDigit) : isDate s = false := by
  have htake : ∀ c ∈ s.take 10, c.isDigit := fun c hc => hs c (List.mem_of_mem_take hc)
  simp [isDate, isFullDate_of_digits hs, afterTime?_of_digits hs, isFullDate_of_digits htake]

theorem unsigned_of_digits {s : List Char} (hs : ∀ c ∈ s, c.isDigit) : unsigned s = s := by
  unfold unsigned
  split
  · exact absurd (hs '-' List.mem_cons_self) (by decide)
  · exact absurd (hs '+' List.mem_cons_self) (by decide)
  · rfl

theorem not_mem_of_digits {s : List Char} (hs : ∀ c ∈ s, c.isDigit) {c : Char}
    (hc : c.isDigit = false) : c ∉ s := by
  intro hmem
  rw [hs c hmem] at hc
  cases hc

theorem isFloat_of_digits {s : List Char} (hs : ∀ c ∈ s, c.isDigit) : isFloat s = false := by
  have hword : ¬ (s = "inf".toList ∨ s = "nan".toList) := by
    rintro (rfl | rfl)
    · exact not_mem_of_digits hs (c := 'i') rfl (by decide)
    · exact not_mem_of_digits hs (c := 'a') rfl (by decide)
  have hexponent : ∀ c ∈ s, (c = 'e' || c = 'E') = false := by
    intro c hc
    have he : c ≠ 'e' := ne_of_mem_of_not_mem hc (not_mem_of_digits hs rfl)
    have hE : c ≠ 'E' := ne_of_mem_of_not_mem hc (not_mem_of_digits hs rfl)
    simp [he, hE]
  have hany : s.any (fun c => c = 'e' || c = 'E') = false := by
    rw [List.any_eq_false]
    exact fun c hc => by rw [hexponent c hc]; decide
  have hmantissa : s.takeWhile (fun c => !(c = 'e' || c = 'E')) = s := by
    rw [List.takeWhile_eq_self_iff]
    exact fun c hc => by rw [hexponent c hc]; rfl
  have hpoint : s.contains '.' = false := by
    rw [List.contains_eq_mem]
    exact decide_eq_false (not_mem_of_digits hs rfl)
  simp only [isFloat, unsigned_of_digits hs, Bool.or_eq_true, decide_eq_true_eq, if_neg hword, hany,
    hmantissa, hpoint]
  split <;> rfl

theorem signed?_decimal (n : Nat) : signed? (decimal n) = some (n : Int) := by
  have hs : ∀ c ∈ decimal n, c.isDigit := fun _ hc => isDigit_of_mem_decimal hc
  unfold signed?
  split
  · next h => exact absurd (h ▸ List.mem_cons_self) (not_mem_of_digits hs (c := '-') rfl)
  · next h => exact absurd (h ▸ List.mem_cons_self) (not_mem_of_digits hs (c := '+') rfl)
  · rw [natural?_decimal]
    rfl

theorem integer?_decimal {n : Nat} (h : n < integerBound) :
    integer? (decimal n) = some (n : Int) := by
  have hs : ∀ c ∈ decimal n, c.isDigit := fun _ hc => isDigit_of_mem_decimal hc
  have hbase : ∀ {c : Char} {rest : List Char}, c.isDigit = false →
      decimal n ≠ '0' :: c :: rest := by
    intro c rest hc hn
    exact absurd (hn ▸ List.mem_cons_of_mem _ List.mem_cons_self) (not_mem_of_digits hs hc)
  unfold integer?
  split
  · next hx => exact absurd hx (hbase rfl)
  · next ho => exact absurd ho (hbase rfl)
  · next hb => exact absurd hb (hbase rfl)
  · rw [signed?_decimal, Option.filter_some]
    simp
    omega

theorem word?_decimal {n : Nat} (h : n < integerBound) : word? (decimal n) = some (.integer n) := by
  have hs : ∀ c ∈ decimal n, c.isDigit := fun _ hc => isDigit_of_mem_decimal hc
  have hletter : ∀ {w : String} {c : Char}, c ∈ w.toList → c.isDigit = false →
      decimal n ≠ w.toList := fun hm hc hw => not_mem_of_digits hs hc (hw ▸ hm)
  have htrue := hletter (w := "true") (c := 't') (by decide) rfl
  have hfalse := hletter (w := "false") (c := 'f') (by decide) rfl
  rw [word?, if_neg htrue, if_neg hfalse, isDate_of_digits hs, isFloat_of_digits hs,
    integer?_decimal h]
  rfl

/-- Where a word ends, reading it stops. -/
theorem takeWhile_append_stop {p : Char → Bool} {s : List Char} (hs : ∀ c ∈ s, p c) {c : Char}
    (hc : p c = false) (rest : List Char) :
    (s ++ c :: rest).takeWhile p = s ∧ (s ++ c :: rest).dropWhile p = c :: rest := by
  have hstop : ¬ p c = true := by simp [hc]
  rw [List.takeWhile_append_of_pos hs, List.takeWhile_cons_of_neg hstop, List.append_nil,
    List.dropWhile_append_of_pos hs, List.dropWhile_cons_of_neg hstop]
  exact ⟨rfl, rfl⟩

theorem isWordChar_of_isDigit {c : Char} (h : c.isDigit) : isWordChar c := by
  simp [isWordChar, Char.isAlphanum, h]

theorem scalar?_word {s : List Char} (hne : s ≠ []) (hs : ∀ c ∈ s, isWordChar c) {v : Item}
    (hv : word? s = some v) (rest : List Char) :
    scalar? (s ++ '\n' :: rest) = some (v, '\n' :: rest) := by
  have hsplit : splitWord (s ++ '\n' :: rest) = (s, '\n' :: rest) := by
    obtain ⟨hword, hrest⟩ := takeWhile_append_stop hs (c := '\n') rfl rest
    rw [splitWord, hword, hrest]
    rfl
  obtain ⟨c, t, rfl⟩ := List.exists_cons_of_ne_nil hne
  have hc := hs c List.mem_cons_self
  rw [List.cons_append] at hsplit ⊢
  rw [scalar?, hsplit]
  · simp only [hv, Option.map_some]
  all_goals
    intro tail h
    rw [(List.cons.inj h).1] at hc
    exact absurd hc (by decide)

/-! ## Values -/

/-- The item that a setting is read as. -/
def Setting.item : Setting → Item
  | text s => .string s
  | number n => .integer n
  | flag b => .boolean b

/-- A character with which a value may begin that is neither an array nor a table. -/
def StartsScalar (c : Char) : Prop := c = '"' ∨ c = '\'' ∨ isWordChar c

instance : DecidablePred StartsScalar := fun _ => inferInstanceAs (Decidable (_ ∨ _ ∨ _))

theorem exists_cons_text? {v : Setting} {t : List Char} (h : v.text? = some t) :
    ∃ c rest, t = c :: rest ∧ StartsScalar c := by
  cases v with
  | text s =>
    obtain ⟨c, rest, hc, hquote⟩ := exists_cons_quote s.toList
    exact ⟨c, rest, (Option.some.inj h).symm.trans hc, hquote.imp_right Or.inl⟩
  | number n =>
    obtain ⟨c, rest, hc⟩ := List.exists_cons_of_ne_nil (decimal_ne_nil n)
    have hdigit : c.isDigit := isDigit_of_mem_decimal (n := n) (hc ▸ List.mem_cons_self)
    rw [Setting.text?, Option.ite_none_right_eq_some] at h
    have hstart : StartsScalar c := Or.inr (Or.inr (isWordChar_of_isDigit hdigit))
    exact ⟨c, rest, (Option.some.inj h.2).symm.trans hc, hstart⟩
  | flag b => cases b <;> cases h <;> exact ⟨_, _, rfl, Or.inr (Or.inr (by decide))⟩

theorem scalar?_text? {v : Setting} {t : List Char} (h : v.text? = some t) (rest : List Char) :
    scalar? (t ++ '\n' :: rest) = some (v.item, '\n' :: rest) := by
  cases v with
  | text s =>
    obtain rfl := Option.some.inj h
    have hread := string?_quote s.toList ('\n' :: rest) (by simp) (by simp)
    obtain ⟨c, more, hc, hquote⟩ := exists_cons_quote s.toList
    rw [hc, List.cons_append] at hread ⊢
    rcases hquote with rfl | rfl
    all_goals
      simp only [scalar?, hread, Option.map_some, String.ofList_toList, Setting.item]
  | number n =>
    rw [Setting.text?, Option.ite_none_right_eq_some] at h
    obtain ⟨hn, rfl⟩ := h.imp_right Option.some.inj
    exact scalar?_word (decimal_ne_nil n)
      (fun c hc => isWordChar_of_isDigit (isDigit_of_mem_decimal hc)) (word?_decimal hn) rest
  | flag b =>
    cases b <;> cases h <;> exact scalar?_word (by decide) (by decide) rfl rest

theorem value?_text? {v : Setting} {t : List Char} (h : v.text? = some t) (depth : Nat)
    (rest : List Char) :
    value? (depth + 1) (t ++ '\n' :: rest) = some (v.item, '\n' :: rest) := by
  have hread := scalar?_text? h rest
  obtain ⟨c, more, rfl, hc⟩ := exists_cons_text? h
  rw [List.cons_append] at hread ⊢
  rw [value?, hread]
  all_goals
    intro tail h
    rw [(List.cons.inj h).1] at hc
    exact absurd hc (by decide)

end Passage.Toml
