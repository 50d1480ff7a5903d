import Passage.Proofs.Text.Trim
import Passage.Proofs.Text.Utf8
import Passage.Text.Lines

/-!
# Lines of encoded texts

The lines of a text can be found among its bytes: cutting the bytes gives the encoded
lines. A text that ends with a line feed begins with the line in front of the first one,
which may lose a carriage return but nothing that trimming would keep.
-/

namespace Passage.Text

section

variable {α : Type} [DecidableEq α]

theorem linesFrom_char {lf cr c : α} (h : c ≠ lf) (line rest : List α) :
    linesFrom lf cr line (c :: rest) = linesFrom lf cr (c :: line) rest := by
  rw [linesFrom, if_neg h]

theorem linesFrom_stretch {lf cr : α} {xs : List α} (h : lf ∉ xs) (line rest : List α) :
    linesFrom lf cr line (xs ++ rest) = linesFrom lf cr (xs.reverse ++ line) rest := by
  induction xs generalizing line with
  | nil => rfl
  | cons x xs ih =>
    rw [List.mem_cons, not_or] at h
    rw [List.cons_append, linesFrom_char (Ne.symm h.1), ih h.2, List.reverse_cons,
      List.append_assoc, List.singleton_append]

theorem linesFrom_break (lf cr : α) (line rest : List α) :
    linesFrom lf cr line (lf :: rest) = closeLine cr line :: linesFrom lf cr [] rest := by
  rw [linesFrom, if_pos rfl]

theorem closeLine_cons_self (cr : α) (line : List α) : closeLine cr (cr :: line) = line.reverse := by
  rw [closeLine, if_pos rfl]

theorem closeLine_of_head {cr : α} {line : List α} (h : line.head? ≠ some cr) :
    closeLine cr line = line.reverse := by
  cases line with
  | nil => rfl
  | cons c line => rw [closeLine, if_neg fun hc => h (congrArg some hc)]

end

/-- The first line of a text, without its line feed. -/
theorem lines_append_break {line : List Char} (h : '\n' ∉ line) (rest : List Char) :
    lines (line ++ '\n' :: rest) = closeLine '\r' line.reverse :: lines rest := by
  rw [lines, linesFrom_stretch h, List.append_nil, linesFrom_break, lines]

theorem trim_closeLine (line : List Char) : trim (closeLine '\r' line.reverse) = trim line := by
  by_cases h : line.getLast? = some '\r'
  · obtain ⟨front, rfl⟩ := List.getLast?_eq_some_iff.mp h
    rw [List.reverse_concat, closeLine_cons_self, List.reverse_reverse, trim_append_blank (by decide)]
  · rw [closeLine_of_head (by rwa [List.head?_reverse]), List.reverse_reverse]

/-! ## Lines among bytes -/

open Utf8 (encode)

theorem not_mem_utf8EncodeChar {b : UInt8} {d : Char} (hd : d.toNat = b.toNat) (hb : b.toNat < 128)
    {c : Char} (hc : c ≠ d) : b ∉ String.utf8EncodeChar c := by
  intro h
  have hn := (Utf8.eq_of_mem_utf8EncodeChar hb h).1
  exact hc (Char.ext (UInt32.toNat_inj.mp (hn.trans hd.symm)))

theorem closeLine_encode (line : List Char) :
    closeLine 13 (encode line.reverse).reverse = encode (closeLine '\r' line) := by
  cases line with
  | nil => rfl
  | cons c line =>
    rw [List.reverse_cons, Utf8.encode_append, List.reverse_append]
    by_cases hc : c = '\r'
    · rw [hc, closeLine_cons_self, show encode ['\r'] = [13] from rfl, List.reverse_singleton,
        List.singleton_append, closeLine_cons_self, List.reverse_reverse]
    · have hlast : ((encode [c]).reverse ++ (encode line.reverse).reverse).head? ≠ some 13 := by
        intro h
        have hm : (13 : UInt8) ∈ String.utf8EncodeChar c := by
          obtain ⟨b, bs, hb⟩ := List.exists_cons_of_ne_nil (l := (encode [c]).reverse) (by
            simp [Utf8.encode_eq_nil_iff])
          rw [hb, List.cons_append, List.head?_cons, Option.some.injEq] at h
          rw [← Utf8.encode_singleton, ← List.mem_reverse, hb, h]
          exact List.mem_cons_self
        exact not_mem_utf8EncodeChar (d := '\r') rfl (by decide) hc hm
      rw [closeLine_of_head hlast, closeLine, if_neg hc, ← List.reverse_append,
        ← Utf8.encode_append, List.reverse_reverse, List.reverse_cons]

theorem linesFrom_encode (line s : List Char) :
    linesFrom 10 13 (encode line.reverse).reverse (encode s) =
      (linesFrom '\n' '\r' line s).map encode := by
  induction s generalizing line with
  | nil =>
    have hnil : (encode line.reverse).reverse = [] ↔ line = [] := by
      rw [List.reverse_eq_nil_iff, Utf8.encode_eq_nil_iff, List.reverse_eq_nil_iff]
    rw [show encode [] = [] from rfl, linesFrom, linesFrom]
    by_cases h : line = []
    · rw [if_pos h, if_pos (hnil.mpr h)]
      rfl
    · rw [if_neg h, if_neg (mt hnil.mp h), List.reverse_reverse]
      rfl
  | cons c s ih =>
    rw [Utf8.encode_cons]
    by_cases hc : c = '\n'
    · rw [hc, show String.utf8EncodeChar '\n' = [10] from rfl, List.singleton_append,
        linesFrom_break, linesFrom_break, List.map_cons, closeLine_encode]
      exact congrArg _ (ih [])
    · have hstep : (String.utf8EncodeChar c).reverse ++ (encode line.reverse).reverse =
          (encode (c :: line).reverse).reverse := by
        rw [List.reverse_cons, Utf8.encode_append, List.reverse_append, Utf8.encode_singleton]
      rw [linesFrom_stretch (not_mem_utf8EncodeChar (d := '\n') rfl (by decide) hc), hstep, ih,
        linesFrom_char hc]

/-- The lines of an encoded text are its encoded lines. -/
theorem byteLines_encode (s : List Char) : byteLines (encode s) = (lines s).map encode :=
  linesFrom_encode [] s

end Passage.Text
