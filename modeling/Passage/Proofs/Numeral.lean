import Mathlib.Data.List.Basic
import Passage.Numeral

/-!
# Numbers read back

What is read as a number are digits, which a plus sign may precede, if the number that
they write fits 64 bits. The decimal form of a number is such digits.
-/

namespace Passage.Numeral

/-- Digits of ASCII, leading zeros included, that write a number of 64 bits. -/
structure Digits (s : List Char) (n : Nat) : Prop where
  nonempty : s ≠ []
  digits : ∀ c ∈ s, c.isDigit
  value_eq : Nat.ofDigitChars 10 s 0 = n
  fits : n < bound

/-- A number as users type it. -/
def Typed (s : List Char) (n : Nat) : Prop :=
  ∃ digits, (s = digits ∨ s = '+' :: digits) ∧ Digits digits n

theorem digits_iff (s : List Char) (n : Nat) :
    Digits s n ↔ (s ≠ [] && s.all Char.isDigit && value s < bound) = true ∧ value s = n := by
  have hvalue : value s = Nat.ofDigitChars 10 s 0 := rfl
  rw [Bool.and_eq_true, Bool.and_eq_true, decide_eq_true_eq, decide_eq_true_eq, List.all_eq_true,
    hvalue]
  constructor
  · rintro ⟨hne, hd, rfl, hf⟩
    exact ⟨⟨⟨hne, hd⟩, hf⟩, rfl⟩
  · rintro ⟨⟨⟨hne, hd⟩, hf⟩, rfl⟩
    exact ⟨hne, hd, rfl, hf⟩

/-- What is read is what is typed as a number, and nothing else. -/
theorem read?_eq_some_iff {s : List Char} {n : Nat} : read? s = some n ↔ Typed s n := by
  have hread : ∀ digits : List Char, (if digits ≠ [] && digits.all Char.isDigit &&
      value digits < bound then some (value digits) else none) = some n ↔ Digits digits n := by
    intro digits
    rw [digits_iff, Option.ite_none_right_eq_some, Option.some.injEq]
  have hplus : ∀ digits : List Char, ¬ Digits ('+' :: digits) n := fun digits h =>
    absurd (h.digits '+' List.mem_cons_self) (by decide)
  unfold read?
  split
  · next rest =>
    rw [hread]
    constructor
    · intro h
      exact ⟨rest, Or.inr rfl, h⟩
    · rintro ⟨digits, rfl | hs, h⟩
      · exact absurd h (hplus rest)
      · rwa [(List.cons.inj hs).2]
  · next hno =>
    rw [hread]
    constructor
    · intro h
      exact ⟨s, Or.inl rfl, h⟩
    · rintro ⟨digits, rfl | hs, h⟩
      · exact h
      · exact absurd hs (hno digits)

theorem read?_of_digits {s : List Char} (hne : s ≠ []) (hd : ∀ c ∈ s, c.isDigit)
    (hb : value s < bound) : read? s = some (value s) :=
  read?_eq_some_iff.mpr ⟨s, Or.inl rfl, hne, hd, rfl, hb⟩

theorem value_decimal (n : Nat) : value (decimal n) = n := by
  rw [value, decimal]
  exact Nat.ofDigitChars_ten_toDigits

theorem isDigit_of_mem_decimal {n : Nat} {c : Char} (h : c ∈ decimal n) : c.isDigit :=
  Nat.isDigit_of_mem_toDigits (by decide) (by decide) h

theorem decimal_ne_nil (n : Nat) : decimal n ≠ [] :=
  Nat.toDigits_ne_nil

/-- Only zero begins with a zero. -/
theorem head?_decimal {n : Nat} (h : n ≠ 0) : (decimal n).head? ≠ some '0' := by
  induction n using Nat.strongRecOn with
  | ind n ih =>
    rw [decimal]
    by_cases hlt : n < 10
    · have hdigit : ∀ n < 10, n ≠ 0 → Nat.digitChar n ≠ '0' := by decide
      rw [Nat.toDigits_of_lt_base hlt, List.head?_cons, ne_eq, Option.some.injEq]
      exact hdigit n hlt h
    · rw [Nat.toDigits_of_base_le (by decide) (Nat.le_of_not_lt hlt),
        List.head?_append_of_ne_nil _ Nat.toDigits_ne_nil]
      exact ih (n / 10) (by omega) (by omega)

theorem read?_decimal {n : Nat} (h : n < bound) : read? (decimal n) = some n := by
  rw [read?_of_digits (decimal_ne_nil n) (fun c hc => isDigit_of_mem_decimal hc)
    (by rwa [value_decimal]), value_decimal]

end Passage.Numeral
