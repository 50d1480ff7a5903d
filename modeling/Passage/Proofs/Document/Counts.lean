import Mathlib.Algebra.GroupWithZero.Nat
import Passage.Proofs.Document.Joining

/-!
# The counts of a document

A document counts the characters of its whole text. The paragraphs joined by two line breaks
are what is left of the text if some of its white space is taken out, so they have no more
characters, and have as many only if they are the text.
-/

namespace Passage

open Text

/-! ## Normal texts -/

theorem normalize_normalize (s : List Char) : normalize (normalize s) = normalize s := by
  have hplain : (normalize s).filter (· ≠ '\r') = normalize s := by
    refine List.filter_eq_self.mpr fun c hc => ?_
    obtain ⟨front, back, hs, -, -⟩ := exists_around_trim (s.filter (· ≠ '\r'))
    have hmem : c ∈ s.filter (· ≠ '\r') := by
      rw [hs]
      exact List.mem_append_right _ (List.mem_append_left _ hc)
    exact (List.mem_filter.mp hmem).2
  rw [normalize, hplain, normalize, trim_trim]

theorem paragraphs_normalize (s : List Char) : paragraphs (normalize s) = paragraphs s := by
  rw [paragraphs, normalize_normalize, ← paragraphs]

/-- Only a text of nothing but white space has no paragraphs. -/
theorem paragraphs_eq_nil_iff (s : List Char) : paragraphs s = [] ↔ normalize s = [] := by
  constructor
  · intro h
    obtain ⟨l, hl⟩ := Layout.exists_of (normalize s)
    have hnone : l.paragraphs = [] := hl.pieces_eq.symm.trans h
    have hblank := hl.filter_eq
    rw [hnone, List.flatten_nil, List.filter_nil, eq_comm, List.filter_eq_nil_iff] at hblank
    by_contra hne
    obtain ⟨c, rest, hc⟩ := List.exists_cons_of_ne_nil hne
    have hfront : isBlank c = false :=
      (trimmed_trim (s.filter (· ≠ '\r'))).front c (by rw [← normalize, hc, List.head?_cons]; rfl)
    exact hblank c (hc ▸ List.mem_cons_self) (by rw [hfront]; rfl)
  · intro h
    rw [paragraphs, h]
    rfl

/-! ## Joined paragraphs -/

/-- Each gap between paragraphs has two line breaks and perhaps more. -/
theorem Layout.joined_sublist {parts : List (List Char × List Char)}
    (h : ∀ gap ∈ (parts.map Prod.snd).dropLast, Broken gap) :
    (['\n', '\n'].intercalate (parts.map Prod.fst)).Sublist (textOf parts) := by
  induction parts with
  | nil => exact List.Sublist.refl []
  | cons x parts ih =>
    cases parts with
    | nil =>
      rw [List.map_singleton, List.intercalate_singleton, textOf, List.flatMap_singleton]
      exact List.sublist_append_left x.1 x.2
    | cons y parts =>
      obtain ⟨hx, hrest⟩ := List.forall_mem_cons.mp h
      have htext : textOf (x :: y :: parts) = (x.1 ++ x.2) ++ textOf (y :: parts) := by
        simp [textOf]
      rw [List.map_cons, List.map_cons, List.intercalate_cons_cons, htext]
      exact ((List.Sublist.refl x.1).append hx.sublist).append (ih hrest)

theorem joined_sublist_normalize (s : List Char) :
    (['\n', '\n'].intercalate (paragraphs s)).Sublist (normalize s) := by
  obtain ⟨l, hl⟩ := Layout.exists_of (normalize s)
  have hparagraphs : paragraphs s = l.parts.map Prod.fst := hl.pieces_eq
  have htext : l.lead ++ Layout.textOf l.parts = normalize s := hl.text_eq
  rw [hparagraphs, ← htext]
  exact (Layout.joined_sublist hl.apart).trans (List.sublist_append_right _ _)

theorem length_joined (ps : List (List Char)) : (['\n', '\n'].intercalate ps).length =
    (ps.map List.length).sum + 2 * (ps.length - 1) := by
  induction ps with
  | nil => rfl
  | cons p ps ih =>
    cases ps with
    | nil => simp
    | cons q ps =>
      rw [List.intercalate_cons_cons, List.length_append, List.length_append, ih]
      simp only [List.map_cons, List.sum_cons, List.length_cons, List.length_nil]
      omega

theorem paragraphs_ofContent (source : String) (content : Content) :
    (Document.ofContent source content).paragraphs = paragraphsOf (content.text.getD "") := by
  simp only [Document.ofContent, paragraphs_normalize, paragraphsOf]

/-- A document has the paragraphs of its raw text, and it does not matter how often the text is
made normal. It counts no characters exactly if it has no paragraphs. Its paragraphs and two
characters between each two are no more than it counts, and they are as many exactly if the text
is the paragraphs with two line breaks between them. -/
theorem counts_fit_paragraphs (source : String) (content : Content) :
    let d := Document.ofContent source content
    let raw := content.text.getD ""
    let joined := (d.paragraphs.map String.length).sum + 2 * (d.paragraphs.length - 1)
    d.paragraphs = paragraphsOf raw ∧
      (∀ s, normalize (normalize s) = normalize s ∧ paragraphs (normalize s) = paragraphs s) ∧
      (d.charCount = 0 ↔ d.paragraphs = []) ∧
      joined ≤ d.charCount ∧
      (joined = d.charCount ↔
        String.ofList (normalize raw.toList) = "\n\n".intercalate d.paragraphs) := by
  intro d raw joined
  have hparagraphs : d.paragraphs = (paragraphs raw.toList).map String.ofList :=
    paragraphs_ofContent source content
  have hcount : d.charCount = (normalize raw.toList).length := rfl
  have hlength : joined = (['\n', '\n'].intercalate (paragraphs raw.toList)).length := by
    simp only [joined, hparagraphs, length_joined, List.map_map, List.length_map]
    simp [Function.comp_def]
  have hjoined : ("\n\n".intercalate d.paragraphs).toList =
      ['\n', '\n'].intercalate (paragraphs raw.toList) := by
    rw [String.toList_intercalate, hparagraphs, List.map_map]
    simp [Function.comp_def]
  have hsub := joined_sublist_normalize raw.toList
  refine ⟨hparagraphs, fun s => ⟨normalize_normalize s, paragraphs_normalize s⟩, ?_, ?_, ?_⟩
  · rw [hcount, hparagraphs, List.length_eq_zero_iff, List.map_eq_nil_iff, paragraphs_eq_nil_iff]
  · rw [hlength, hcount]
    exact hsub.length_le
  · rw [hlength, hcount, hsub.length_eq, ← String.toList_inj, hjoined, String.toList_ofList,
      eq_comm]

end Passage
