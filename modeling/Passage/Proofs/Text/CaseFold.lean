import Mathlib.Data.List.Forall2
import Passage.Text.Blank
import Passage.Text.CaseFold

/-!
# Folding classes

A sign of ASCII that stands before the small letters and is no letter is equal to
nothing but itself, whatever the case, and so is white space. This rests on properties
of the whole table: no code is folded to one below the small letters, and no run goes
from or to a blank. Texts that differ in case only are therefore cut at the same places.
-/

namespace Passage.Text.CaseFold

theorem same_refl (a : Char) : same a a := by simp [same]

theorem target_ge : ∀ r ∈ runs, 97 ≤ r.target := by decide +kernel

theorem code_ge {n : Nat} (hn : 97 ≤ n) : 97 ≤ code n := by
  unfold code
  split
  · next r hr =>
    have ht := target_ge r (List.mem_of_find?_eq_some hr)
    rw [Run.apply]
    omega
  · exact hn

/-- A character with a key below the small letters is that key. -/
theorem toNat_of_key_lt {c : Char} (h : key c < 97) : c.toNat = key c := by
  unfold key at h ⊢
  split
  · next hc =>
    rw [if_pos hc] at h
    split
    · next hu =>
      rw [if_pos hu] at h
      have ha : 'A'.toNat ≤ c.toNat := by
        simp only [Bool.and_eq_true, decide_eq_true_eq] at hu
        exact hu.1
      have : 'A'.toNat = 65 := rfl
      omega
    · rfl
  · next hc =>
    rw [if_neg hc] at h
    have := code_ge (n := c.toNat) (by omega)
    omega

/-- A sign that is neither a letter nor beyond the letters is alone in its class. -/
theorem eq_of_same {a b : Char} (hb : key b < 97) (h : same a b) : a = b := by
  have hk : key a = key b := by simpa [same] using h
  have ha := toNat_of_key_lt (hk ▸ hb)
  have hb' := toNat_of_key_lt hb
  exact Char.toNat_inj.mp (by omega)

/-! ## What folds to a code -/

theorem same_iff {a b : Char} : same a b ↔ key a = key b := by simp [same]

theorem same_symm {a b : Char} (h : same a b) : same b a := same_iff.mpr (same_iff.mp h).symm

/-- The table also says how the characters of ASCII fold. -/
theorem key_eq_code (c : Char) : key c = code c.toNat := by
  have hascii : ∀ n < 128, (if 65 ≤ n ∧ n ≤ 90 then n + 32 else n) = code n := by decide +kernel
  have hcapital : ('A' ≤ c && c ≤ 'Z') = true ↔ 65 ≤ c.toNat ∧ c.toNat ≤ 90 := by
    rw [Bool.and_eq_true, decide_eq_true_eq, decide_eq_true_eq]
    rfl
  rw [key]
  split
  · next hc => rw [← hascii c.toNat hc, if_congr hcapital rfl rfl]
  · rfl

/-- The code lies between the first and the last one that the run folds to. -/
def Run.Reaches (r : Run) (n : Nat) : Prop := r.target ≤ n ∧ n ≤ r.apply r.last

instance (r : Run) (n : Nat) : Decidable (r.Reaches n) := inferInstanceAs (Decidable (_ ∧ _))

theorem code_of_not_covered {n : Nat} (h : ∀ r ∈ runs, ¬ r.covers n) : code n = n := by
  rw [code, List.find?_eq_none.mpr h]

/-- A code stays as it is, or a run that reaches its folded code covers it. -/
theorem code_cases (n : Nat) :
    code n = n ∨ ∃ r ∈ runs, r.Reaches (code n) ∧ r.first ≤ n ∧ code n = r.apply n := by
  unfold code
  split
  · next r hr =>
    have hc := List.find?_some hr
    simp only [Run.covers, Bool.and_eq_true, decide_eq_true_eq] at hc
    refine Or.inr ⟨r, List.mem_of_find?_eq_some hr, ?_, hc.1.1, rfl⟩
    simp only [Run.Reaches, Run.apply]
    omega
  · exact Or.inl rfl

/-- The code folds to itself, and no other one does to it. -/
def Lone (n : Nat) : Prop := ∀ r ∈ runs, ¬ r.covers n ∧ ¬ r.Reaches n

instance (n : Nat) : Decidable (Lone n) := inferInstanceAs (Decidable (∀ r ∈ runs, _))

theorem eq_of_same_of_lone {a b : Char} (hb : Lone b.toNat) (h : same a b) : a = b := by
  rw [same_iff, key_eq_code, key_eq_code, code_of_not_covered fun r hr => (hb r hr).1] at h
  apply Char.toNat_inj.mp
  rcases code_cases a.toNat with hc | ⟨r, hr, hreach, _⟩
  · exact hc.symm.trans h
  · exact absurd (h ▸ hreach) (hb r hr).2

/-- The code folds to itself, and of the others at most the one thirty-two below it does, as with
the letters of ASCII. -/
def Letter (n : Nat) : Prop :=
  ∀ r ∈ runs, ¬ r.covers n ∧ (r.Reaches n → r.first + 32 = r.target)

instance (n : Nat) : Decidable (Letter n) := inferInstanceAs (Decidable (∀ r ∈ runs, _))

theorem toNat_of_same_letter {a b : Char} (hb : Letter b.toNat) (h : same a b) :
    a.toNat = b.toNat ∨ a.toNat + 32 = b.toNat := by
  rw [same_iff, key_eq_code, key_eq_code, code_of_not_covered fun r hr => (hb r hr).1] at h
  rcases code_cases a.toNat with hc | ⟨r, hr, hreach, hfirst, heq⟩
  · exact Or.inl (hc.symm.trans h)
  · have hstep := (hb r hr).2 (h ▸ hreach)
    rw [h, Run.apply] at heq
    omega

/-- The letter `k` has a third form beyond ASCII. -/
example : Letter 'o'.toNat ∧ Letter 'r'.toNat ∧ ¬ Letter 'k'.toNat := by decide +kernel

/-! ## White space -/

theorem lone_of_isBlank {c : Char} (h : isBlank c) : Lone c.toNat := by
  have hall : ∀ n ∈ List.range' 9 5 ++ [32, 0x85, 0xA0, 0x1680] ++ List.range' 0x2000 11 ++
      [0x2028, 0x2029, 0x202F, 0x205F, 0x3000], Lone n := by decide +kernel
  apply hall
  simp [isBlank] at h
  simp [List.mem_range'_1]
  omega

theorem isBlank_congr {a b : Char} (h : same a b) : isBlank a = isBlank b := by
  rw [Bool.eq_iff_iff]
  constructor
  · intro ha
    rwa [eq_of_same_of_lone (lone_of_isBlank ha) (same_symm h)]
  · intro hb
    rwa [eq_of_same_of_lone (lone_of_isBlank hb) h]

/-! ## Texts that differ in case only -/

/-- Texts of one length whose characters at each place are equal or differ in case only. -/
abbrev Alike (s t : List Char) : Prop := List.Forall₂ (fun a b => same a b) s t

variable {s t : List Char}

theorem alike_symm (h : Alike s t) : Alike t s := by
  induction h with
  | nil => exact .nil
  | cons hab _ ih => exact .cons (same_symm hab) ih

theorem alike_trans {u : List Char} (h : Alike s t) (hu : Alike t u) : Alike s u := by
  induction h generalizing u with
  | nil => exact hu
  | cons hab _ ih =>
    obtain ⟨c, u', hbc, htu, rfl⟩ := List.forall₂_cons_left_iff.mp hu
    exact .cons (same_iff.mpr ((same_iff.mp hab).trans (same_iff.mp hbc))) (ih htu)

theorem alike_takeWhile {p : Char → Bool} (hp : ∀ a b, same a b → p a = p b) (h : Alike s t) :
    Alike (s.takeWhile p) (t.takeWhile p) := by
  induction h with
  | nil => exact .nil
  | @cons a b _ _ hab _ ih =>
    rw [List.takeWhile_cons, List.takeWhile_cons, hp a b hab]
    split
    · exact .cons hab ih
    · exact .nil

theorem alike_dropWhile {p : Char → Bool} (hp : ∀ a b, same a b → p a = p b) (h : Alike s t) :
    Alike (s.dropWhile p) (t.dropWhile p) := by
  induction h with
  | nil => exact .nil
  | @cons a b _ _ hab hst ih =>
    rw [List.dropWhile_cons, List.dropWhile_cons, hp a b hab]
    split
    · exact ih
    · exact .cons hab hst

theorem alike_trim (h : Alike s t) : Alike (trim s) (trim t) := by
  have hb : ∀ a b, same a b → isBlank a = isBlank b := fun _ _ => isBlank_congr
  have hr : Alike (trimLeft s).reverse (trimLeft t).reverse :=
    List.forall₂_reverse_iff.mpr (alike_dropWhile hb h)
  exact List.forall₂_reverse_iff.mpr (alike_dropWhile hb hr)

theorem eq_nil_iff_of_alike (h : Alike s t) : s = [] ↔ t = [] := by
  rw [← List.length_eq_zero_iff, h.length_eq, List.length_eq_zero_iff]

theorem alike_append_left {u : List Char} (h : Alike (s ++ u) t) :
    ∃ s' u', t = s' ++ u' ∧ Alike s s' ∧ Alike u u' :=
  ⟨t.take s.length, t.drop s.length, (List.take_append_drop _ _).symm,
    alike_symm (List.forall₂_take_append _ _ _ (alike_symm h)),
    alike_symm (List.forall₂_drop_append _ _ _ (alike_symm h))⟩

theorem alike_cons_lone {c : Char} (hc : Lone c.toNat) (h : Alike (c :: s) t) :
    ∃ t', t = c :: t' ∧ Alike s t' := by
  obtain ⟨d, t', hd, ht, rfl⟩ := List.forall₂_cons_left_iff.mp h
  obtain rfl := eq_of_same_of_lone hc (same_symm hd)
  exact ⟨t', rfl, ht⟩

/-- A character that is equal to nothing but itself is in both texts or in none. -/
theorem not_mem_of_alike {c : Char} (hc : Lone c.toNat) (h : Alike s t) (hs : c ∉ s) : c ∉ t := by
  intro hm
  obtain ⟨front, back, rfl⟩ := List.append_of_mem hm
  obtain ⟨front', u, rfl, _, hu⟩ := alike_append_left (alike_symm h)
  obtain ⟨u', rfl, _⟩ := alike_cons_lone hc hu
  simp at hs

end Passage.Text.CaseFold
