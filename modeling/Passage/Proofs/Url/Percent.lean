import Passage.Proofs.Text.Utf8
import Passage.Url.Percent

/-!
# Percent encoding and decoding

An encoder that escapes the percent sign loses nothing: decoding gives the bytes of the text
back. What it writes are characters that it keeps, percent signs and hexadecimal digits, so
another encoder that keeps these changes nothing any more.
-/

namespace Passage.Url.Percent

open Numeral (hexDigit? upperHex)
open Text

theorem encode_append (keeps : Char → Bool) (s t : List Char) :
    encode keeps (s ++ t) = encode keeps s ++ encode keeps t :=
  List.flatMap_append

theorem encode_cons (keeps : Char → Bool) (c : Char) (s : List Char) :
    encode keeps (c :: s) = encodeChar keeps c ++ encode keeps s :=
  List.flatMap_cons

/-! ## Decoding -/

theorem hexDigit?_upperHex : ∀ n < 16, hexDigit? (upperHex n) = some n := by decide

theorem decode_escapeByte (b : UInt8) (rest : List Char) :
    decode (escapeByte b ++ rest) = b :: decode rest := by
  have hb : b.toNat < 256 := b.toNat_lt
  have hhigh : hexDigit? (upperHex (b.toNat / 16)) = some (b.toNat / 16) :=
    hexDigit?_upperHex _ (by omega)
  have hlow : hexDigit? (upperHex (b.toNat % 16)) = some (b.toNat % 16) :=
    hexDigit?_upperHex _ (by omega)
  have hsum : 16 * (b.toNat / 16) + b.toNat % 16 = b.toNat := Nat.div_add_mod _ 16
  simp only [escapeByte, List.cons_append, List.nil_append, decode, if_true, hhigh, hlow, hsum,
    UInt8.ofNat_toNat]

theorem decode_escapeBytes (bs : List UInt8) (rest : List Char) :
    decode (bs.flatMap escapeByte ++ rest) = bs ++ decode rest := by
  induction bs with
  | nil => rfl
  | cons b bs ih => rw [List.flatMap_cons, List.append_assoc, decode_escapeByte, ih, List.cons_append]

theorem decode_cons_of_ne {c : Char} (h : c ≠ '%') (rest : List Char) :
    decode (c :: rest) = String.utf8EncodeChar c ++ decode rest := by
  match rest with
  | [] => simp only [decode, List.append_nil]
  | [d] => simp only [decode]
  | a :: b :: rest => simp only [decode, if_neg h]

theorem decode_encodeChar {keeps : Char → Bool} (h : keeps '%' = false) (c : Char)
    (rest : List Char) :
    decode (encodeChar keeps c ++ rest) = String.utf8EncodeChar c ++ decode rest := by
  unfold encodeChar
  split
  · next hc =>
    have hne : c ≠ '%' := by
      rintro rfl
      simp [h] at hc
    exact decode_cons_of_ne hne rest
  · exact decode_escapeBytes _ rest

/-- Decoding gives the bytes of a text back. -/
theorem decode_encode {keeps : Char → Bool} (h : keeps '%' = false) (s : List Char) :
    decode (encode keeps s) = Utf8.encode s := by
  induction s with
  | nil => rfl
  | cons c s ih => rw [encode_cons, decode_encodeChar h, ih, Utf8.encode_cons]

/-! ## What is written -/

/-- The percent sign and the digits behind it. -/
def isEscape (c : Char) : Bool := c = '%' || c.isDigit || ('A' ≤ c && c ≤ 'F')

theorem isEscape_upperHex : ∀ n < 16, (upperHex n).toNat < 128 ∧ isEscape (upperHex n) := by decide

theorem isEscape_of_mem_escapeByte {b : UInt8} {c : Char} (h : c ∈ escapeByte b) :
    c.toNat < 128 ∧ isEscape c := by
  have hb : b.toNat < 256 := b.toNat_lt
  simp only [escapeByte, List.mem_cons, List.not_mem_nil, or_false] at h
  rcases h with rfl | rfl | rfl
  · decide
  · exact isEscape_upperHex _ (by omega)
  · exact isEscape_upperHex _ (by omega)

theorem of_mem_encode {keeps : Char → Bool} {s : List Char} {c : Char} (h : c ∈ encode keeps s) :
    c.toNat < 128 ∧ (keeps c ∨ isEscape c) := by
  obtain ⟨d, _, hd⟩ := List.mem_flatMap.mp h
  unfold encodeChar at hd
  split at hd
  · next hk =>
    obtain rfl := List.mem_singleton.mp hd
    simp only [Bool.and_eq_true, decide_eq_true_eq] at hk
    exact ⟨hk.1, .inl hk.2⟩
  · obtain ⟨b, _, hb⟩ := List.mem_flatMap.mp hd
    exact ⟨(isEscape_of_mem_escapeByte hb).1, .inr (isEscape_of_mem_escapeByte hb).2⟩

theorem encode_of_kept {keeps : Char → Bool} {s : List Char}
    (h : ∀ c ∈ s, c.toNat < 128 ∧ keeps c) : encode keeps s = s := by
  induction s with
  | nil => rfl
  | cons c s ih =>
    obtain ⟨hc, hs⟩ := List.forall_mem_cons.mp h
    rw [encode_cons, ih hs, encodeChar, if_pos (by simpa using hc), List.singleton_append]

/-! ## Values of parameters -/

/-- An ASCII character that a query keeps and that separates no parameters. -/
def isValueChar (c : Char) : Bool := c.toNat < 128 && specialQueryKeeps c && c != '&'

theorem isValueChar_of_lt :
    ∀ n < 128, isUnreserved (Char.ofNat n) ∨ isEscape (Char.ofNat n) → isValueChar (Char.ofNat n) := by
  decide

/-- A text less everything that needs an escape can be the value of a parameter. -/
theorem isValueChar_of_mem_encode {s : List Char} {c : Char} (h : c ∈ encode isUnreserved s) :
    isValueChar c := by
  obtain ⟨hlt, hc⟩ := of_mem_encode h
  have hvalue := isValueChar_of_lt c.toNat hlt
  rw [Char.ofNat_toNat] at hvalue
  exact hvalue hc

theorem encode_specialQueryKeeps {s : List Char} (h : ∀ c ∈ s, isValueChar c) :
    encode specialQueryKeeps s = s := by
  refine encode_of_kept fun c hc => ?_
  have hv := h c hc
  simp only [isValueChar, Bool.and_eq_true, decide_eq_true_eq] at hv
  exact hv.1

end Passage.Url.Percent
