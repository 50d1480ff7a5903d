import Mathlib.Data.List.Forall2
import Passage.Text.Blank

/-!
# Letter case in ASCII

Small letters and capitals of ASCII are thirty-two codes apart, and all else has no case
here. A word of small letters is spelled by the texts that lower to it.
-/

namespace Passage.Text

theorem toNat_toLower (c : Char) :
    c.toLower.toNat = if 65 ≤ c.toNat ∧ c.toNat ≤ 90 then c.toNat + 32 else c.toNat := by
  have hcapital : (c.val ≥ 'A'.val ∧ c.val ≤ 'Z'.val) ↔ 65 ≤ c.toNat ∧ c.toNat ≤ 90 := by
    simp only [ge_iff_le, UInt32.le_iff_toNat_le]
    rfl
  unfold Char.toLower
  split
  · next h =>
    rw [if_pos (hcapital.mp h)]
    have hsum : (c.val + ('a'.val - 'A'.val)).toNat = (c.toNat + 32) % 2 ^ 32 :=
      UInt32.toNat_add c.val ('a'.val - 'A'.val)
    have hbound := (hcapital.mp h).2
    exact hsum.trans (Nat.mod_eq_of_lt (by omega))
  · next h => rw [if_neg fun h' => h (hcapital.mpr h')]

/-- The first character is the second one, or its capital. -/
def CaseOf (a b : Char) : Prop := a = b ∨ 65 ≤ a.toNat ∧ a.toNat ≤ 90 ∧ a.toNat + 32 = b.toNat

instance (a b : Char) : Decidable (CaseOf a b) := inferInstanceAs (Decidable (_ ∨ _))

theorem toLower_eq_iff_caseOf {b : Char} (hb : ¬ (65 ≤ b.toNat ∧ b.toNat ≤ 90)) (a : Char) :
    a.toLower = b ↔ CaseOf a b := by
  rw [CaseOf, ← Char.toNat_inj, ← Char.toNat_inj, toNat_toLower]
  split <;> omega

/-- Two characters only have a given small letter. -/
theorem toLower_eq_iff (small capital : Char) (hs : capital.toNat + 32 = small.toNat)
    (hc : 65 ≤ capital.toNat ∧ capital.toNat ≤ 90) (c : Char) :
    c.toLower = small ↔ c = small ∨ c = capital := by
  rw [toLower_eq_iff_caseOf (by omega), CaseOf, ← Char.toNat_inj, ← Char.toNat_inj]
  omega

/-- The text is the word, any of its letters in capitals. -/
def Spells (text : List Char) (word : String) : Prop := List.Forall₂ CaseOf text word.toList

instance (text : List Char) (word : String) : Decidable (Spells text word) :=
  inferInstanceAs (Decidable (List.Forall₂ _ _ _))

/-- A word without capitals. -/
def Small (word : String) : Prop := ∀ c ∈ word.toList, ¬ (65 ≤ c.toNat ∧ c.toNat ≤ 90)

instance (word : String) : Decidable (Small word) :=
  List.decidableBAll _ word.toList

theorem forall₂_caseOf_iff {w : List Char} (hw : ∀ c ∈ w, ¬ (65 ≤ c.toNat ∧ c.toNat ≤ 90))
    (text : List Char) : List.Forall₂ CaseOf text w ↔ text.map Char.toLower = w := by
  induction w generalizing text with
  | nil => rw [List.forall₂_nil_right_iff, List.map_eq_nil_iff]
  | cons b w ih =>
    obtain ⟨hb, hw⟩ := List.forall_mem_cons.mp hw
    cases text with
    | nil => simp
    | cons a text =>
      rw [List.forall₂_cons, ih hw, ← toLower_eq_iff_caseOf hb, List.map_cons, List.cons.injEq]

theorem spells_iff {word : String} (hw : Small word) (text : List Char) :
    Spells text word ↔ String.ofList (text.map Char.toLower) = word := by
  rw [Spells, forall₂_caseOf_iff hw, ← String.toList_inj, String.toList_ofList]

theorem CaseOf.not_isBlank {a b : Char} (h : CaseOf a b) (hb : isBlank b = false) :
    isBlank a = false := by
  obtain rfl | ⟨hl, hu, -⟩ := h
  · exact hb
  · simp [isBlank]
    omega

/-- Where a word has no blank, none of its spellings has one. -/
theorem Spells.not_isBlank {text : List Char} {word : String} (h : Spells text word)
    (hw : ∀ c ∈ word.toList, isBlank c = false) : ∀ c ∈ text, isBlank c = false := by
  rw [Spells] at h
  generalize word.toList = letters at h hw
  induction h with
  | nil => nofun
  | cons hcase _ ih =>
    obtain ⟨hb, hw⟩ := List.forall_mem_cons.mp hw
    exact List.forall_mem_cons.mpr ⟨hcase.not_isBlank hb, ih hw⟩

end Passage.Text
