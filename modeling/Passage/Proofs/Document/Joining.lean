import Passage.Proofs.Document.Paragraphs

/-!
# Texts joined at a blank line

White space with a blank line in it keeps two texts apart, whatever the first ends and the
second begins with. So paragraphs can be joined to a text and come back from it one by one.
-/

namespace Passage

open Text

/-- The text between two others may hide its blank line behind carriage returns. -/
theorem paragraphsOf_append {s : String} (hblank : ∀ c ∈ s.toList, isBlank c)
    (hbroken : Broken (s.toList.filter (· ≠ '\r'))) (a b : String) :
    paragraphsOf (a ++ s ++ b) = paragraphsOf a ++ paragraphsOf b := by
  have hgap : ∀ c ∈ s.toList.filter (· ≠ '\r'), isBlank c :=
    fun c hc => hblank c ((List.mem_filter.mp hc).1)
  rw [paragraphsOf, paragraphs_eq, String.toList_append, String.toList_append, List.filter_append,
    List.filter_append, List.append_assoc, pieces_append _ hgap (Or.inl hbroken), List.map_append,
    ← paragraphs_eq, ← paragraphs_eq, ← paragraphsOf, ← paragraphsOf]

theorem paragraphsOf_singleton {p : String} (h : IsParagraph p.toList) (hr : '\r' ∉ p.toList) :
    paragraphsOf p = [p] := by
  have hplain : p.toList.filter (· ≠ '\r') = p.toList := by
    refine List.filter_eq_self.mpr fun c hc => ?_
    simpa using ne_of_mem_of_not_mem hc hr
  have hone : pieces (p.toList ++ ([] ++ [])) = p.toList :: pieces [] :=
    h.pieces_append_gap (List.forall_mem_nil _) (Or.inr rfl)
  rw [List.append_nil, List.append_nil, pieces_nil] at hone
  rw [paragraphsOf, paragraphs_eq, hplain, hone, List.map_singleton, String.ofList_toList]

theorem of_mem_paragraphsOf {text p : String} (h : p ∈ paragraphsOf text) :
    IsParagraph p.toList ∧ '\r' ∉ p.toList := by
  obtain ⟨l, hl⟩ := Layout.exists_of (text.toList.filter (· ≠ '\r'))
  rw [paragraphsOf, paragraphs_eq, hl.pieces_eq] at h
  obtain ⟨q, hq, rfl⟩ := List.mem_map.mp h
  rw [String.toList_ofList]
  refine ⟨hl.paragraph q hq, fun hr => ?_⟩
  have hmem : '\r' ∈ text.toList.filter (· ≠ '\r') := by
    rw [← hl.text_eq]
    exact Layout.mem_text hq hr
  simpa using (List.mem_filter.mp hmem).2

theorem paragraphsOf_intercalate {ps : List String}
    (h : ∀ p ∈ ps, IsParagraph p.toList ∧ '\r' ∉ p.toList) :
    paragraphsOf ("\n\n".intercalate ps) = ps := by
  induction ps with
  | nil => rfl
  | cons p ps ih =>
    obtain ⟨⟨hp, hr⟩, hps⟩ := List.forall_mem_cons.mp h
    cases ps with
    | nil => rw [String.intercalate_singleton, paragraphsOf_singleton hp hr]
    | cons q ps =>
      rw [String.intercalate_cons_cons, paragraphsOf_append (by decide +kernel) (by decide +kernel),
        paragraphsOf_singleton hp hr, ih hps]
      rfl

/-- Texts part at white space with a blank line in it. Paragraphs joined at blank lines are the
paragraphs of the joined text, and joining the paragraphs of any text changes none of them. -/
theorem paragraphsOf_joined :
    (∀ a s b : String, (∀ c ∈ s.toList, isBlank c) → Broken (s.toList.filter (· ≠ '\r')) →
      paragraphsOf (a ++ s ++ b) = paragraphsOf a ++ paragraphsOf b) ∧
    (∀ ps : List String, (∀ p ∈ ps, IsParagraph p.toList ∧ '\r' ∉ p.toList) →
      paragraphsOf ("\n\n".intercalate ps) = ps) ∧
    ∀ text : String, paragraphsOf ("\n\n".intercalate (paragraphsOf text)) = paragraphsOf text :=
  ⟨fun a _ b hblank hbroken => paragraphsOf_append hblank hbroken a b,
    fun _ h => paragraphsOf_intercalate h,
    fun _ => paragraphsOf_intercalate fun _ hp => of_mem_paragraphsOf hp⟩

/-- The first text ends in a line break and the second begins with one, and the separator's blank
line is one only without its carriage return. -/
theorem paragraphsOf_joined_returns :
    (∀ c ∈ " \n\r\n\u2003".toList, isBlank c) ∧
    Broken (" \n\r\n\u2003".toList.filter (· ≠ '\r')) ∧
    paragraphsOf ("one \n two\n" ++ " \n\r\n\u2003" ++ "\r\n\r\nthree ") =
      ["one \n two", "three"] ∧
    (∀ p ∈ ["one \n two", "three"], IsParagraph p.toList ∧ '\r' ∉ p.toList) ∧
    paragraphsOf ("\n\n".intercalate ["one \n two", "three"]) = ["one \n two", "three"] := by
  have hblank : ∀ c ∈ " \n\r\n\u2003".toList, isBlank c := by decide +kernel
  have hbroken : Broken (" \n\r\n\u2003".toList.filter (· ≠ '\r')) := by decide +kernel
  have hps : ∀ p ∈ ["one \n two", "three"], IsParagraph p.toList ∧ '\r' ∉ p.toList := by
    decide +kernel
  refine ⟨hblank, hbroken, ?_, hps, paragraphsOf_joined.2.1 _ hps⟩
  rw [paragraphsOf_joined.1 _ _ _ hblank hbroken]
  decide +kernel

end Passage
