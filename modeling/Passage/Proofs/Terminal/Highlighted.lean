import Passage.Proofs.Match.Inside
import Passage.Proofs.Terminal.Visible

/-!
# What is highlighted in a marked paragraph

A character is highlighted if a mark is open where it is shown. Each term adds the
marks of its own matches and takes none away, so what is highlighted once stays so.
Every match among markers lies inside an occurrence in the paragraph, so nothing is
highlighted for another reason. A line feed in a highlight belongs to it, although
there is nothing of it to colour. Paragraphs that contain a marker of their own are
left out.
-/

namespace Passage.Terminal

open Match

/-! ## Highlighted characters -/

/-- A mark is open at the character in that place. -/
def HighlightedAt (xs : List Shown) (k : Nat) : Prop := ∃ x, xs[k]? = some x ∧ 0 < x.depth

theorem highlightedAt_append_left {xs ys : List Shown} {k : Nat} (h : k < xs.length) :
    HighlightedAt (xs ++ ys) k ↔ HighlightedAt xs k := by
  rw [HighlightedAt, List.getElem?_append_left h]
  rfl

theorem highlightedAt_append_right {xs ys : List Shown} {k : Nat} (h : xs.length ≤ k) :
    HighlightedAt (xs ++ ys) k ↔ HighlightedAt ys (k - xs.length) := by
  rw [HighlightedAt, List.getElem?_append_right h]
  rfl

/-- All characters of a stretch have the same marks open. -/
theorem highlightedAt_stretch (depth : Nat) {s : List Char} {k : Nat} (h : k < s.length) :
    HighlightedAt (s.map (⟨·, depth⟩)) k ↔ 0 < depth := by
  simp [HighlightedAt, List.getElem?_eq_getElem h]

theorem seen_chars (depth : Nat) (s : List Char) (ts : List Symbol) :
    seen depth (s.map .char ++ ts) = s.map (⟨·, depth⟩) ++ seen depth ts := by
  induction s with
  | nil => rfl
  | cons c s ih => exact congrArg (⟨c, depth⟩ :: ·) ih

theorem not_highlightedAt_chars (s : List Char) (k : Nat) :
    ¬ HighlightedAt (seen 0 (s.map .char)) k := by
  intro h
  obtain ⟨x, hx, hd⟩ := h
  have hm := List.mem_of_getElem? hx
  rw [← List.append_nil (s.map Symbol.char), seen_chars, seen, List.append_nil] at hm
  obtain ⟨c, _, rfl⟩ := List.mem_map.mp hm
  exact Nat.lt_irrefl 0 hd

/-- Wrapping highlights the characters in the spans, and leaves all others as they are. -/
theorem highlightedAt_iff_of_wrapsAt {i : Nat} {rs : List Span} {ts us : List Symbol}
    (h : WrapsAt i rs ts us) (depth k : Nat) :
    HighlightedAt (seen depth us) k ↔
      HighlightedAt (seen depth ts) k ∨ ∃ r ∈ rs, r.start ≤ i + k ∧ i + k < r.stop := by
  induction h generalizing depth k with
  | nil => simp [seen]
  | @char c i rs ts us h ih =>
    cases k with
    | zero =>
      have hnone : ¬ ∃ r ∈ rs, r.start ≤ i + 0 ∧ i + 0 < r.stop := by
        rintro ⟨r, hr, hle, _⟩
        have hge := h.le_start r hr
        omega
      rw [or_iff_left hnone]
      rfl
    | succ k =>
      rw [show i + (k + 1) = i + 1 + k by omega]
      exact ih depth k
  | @marker x i rs ts us hx _ ih =>
    cases x with
    | char c => cases hx
    | opening => exact ih (depth + 1) k
    | closing => exact ih (depth - 1) k
  | @wrap s i rs ts us _ ih =>
    have hus : seen depth (.opening :: s.map .char ++ .closing :: us) =
        s.map (⟨·, depth + 1⟩) ++ seen depth us := seen_chars (depth + 1) s (.closing :: us)
    rw [hus, seen_chars]
    by_cases hk : k < s.length
    · rw [highlightedAt_append_left (by simpa using hk), highlightedAt_stretch _ hk]
      have hin : ∃ r ∈ (⟨i, i + s.length⟩ :: rs : List Span), r.start ≤ i + k ∧ i + k < r.stop :=
        ⟨_, List.mem_cons_self, Nat.le_add_right i k, Nat.add_lt_add_left hk i⟩
      exact iff_of_true (Nat.succ_pos depth) (.inr hin)
    · have hle : s.length ≤ k := Nat.le_of_not_lt hk
      have hi : i + s.length + (k - s.length) = i + k := by omega
      have hrest := ih depth (k - s.length)
      rw [hi] at hrest
      rw [highlightedAt_append_right (by simpa using hle),
        highlightedAt_append_right (by simpa using hle), List.length_map, List.length_map, hrest,
        List.exists_mem_cons_iff]
      have hout : ¬ (i ≤ i + k ∧ i + k < i + s.length) := by omega
      rw [or_iff_right hout]

/-! ## One term after another -/

/-- Marked text as symbols, with the markers nested and, if whole words are searched for, at the
edges of words. -/
structure Markup (o : Options) (text s : List Char) (ts : List Symbol) : Prop where
  written_eq : written ts = s
  plain_eq : plain ts = text
  balanced : depthAfter 0 ts = some 0
  edges : o.wholeWord = true → AtEdges none ts

theorem markup_chars (o : Options) (text : List Char) : Markup o text text (text.map .char) where
  written_eq := written_chars text
  plain_eq := plain_chars text
  balanced := by
    rw [← List.append_nil (text.map Symbol.char), depthAfter_chars]
    rfl
  edges _ := by
    rw [← List.append_nil (text.map Symbol.char), atEdges_chars]
    trivial

section

variable {o : Options} {text s : List Char} {ts : List Symbol}

theorem Markup.shown_eq (h : Markup o text s ts) (hp : Unmarked text) : shown 0 s = seen 0 ts := by
  rw [← h.written_eq]
  exact shown_written (h.plain_eq ▸ hp) (by rw [h.balanced]; rfl)

/-- A term highlights what its matches in the marked text span, and that is inside occurrences. -/
theorem Markup.marked {t : Query.Term} (h : Markup o text s ts) (hp : Unmarked text)
    (ht : ClearOfMarkers t.value.toList) :
    ∃ (us : List Symbol) (rs : List Span), Markup o text ((Pattern.ofTerm t o).mark s) us ∧
      (∀ r ∈ rs, Inside t o text r) ∧ ∀ k, HighlightedAt (shown 0 ((Pattern.ofTerm t o).mark s)) k ↔
        HighlightedAt (shown 0 s) k ∨ ∃ r ∈ rs, r.start ≤ k ∧ k < r.stop := by
  obtain ⟨us, rs, hmark, hw, hin, he⟩ := mark_wrapsAt ht h.plain_eq h.edges
  rw [h.written_eq] at hmark
  have hus : Markup o text ((Pattern.ofTerm t o).mark s) us :=
    ⟨hmark.symm, hw.wraps.plain_eq.trans h.plain_eq,
      (hw.wraps.depthAfter_eq 0).trans h.balanced, he⟩
  refine ⟨us, rs, hus, hin, fun k => ?_⟩
  have hiff := highlightedAt_iff_of_wrapsAt hw 0 k
  rwa [Nat.zero_add, ← hus.shown_eq hp, ← h.shown_eq hp] at hiff

/-- Terms highlight what is inside their occurrences, and leave highlighted what is so already. -/
theorem Markup.marked_all {terms : List Query.Term} (h : Markup o text s ts) (hp : Unmarked text)
    (hterms : ∀ t ∈ terms, ClearOfMarkers t.value.toList) :
    (∃ us, Markup o text (markAll o terms s) us) ∧
      (∀ k, HighlightedAt (shown 0 s) k → HighlightedAt (shown 0 (markAll o terms s)) k) ∧
      ∀ k, HighlightedAt (shown 0 (markAll o terms s)) k → HighlightedAt (shown 0 s) k ∨
        ∃ t ∈ terms, ∃ i j, OccursAt t o text i j ∧ i ≤ k ∧ k < j := by
  induction terms generalizing s ts with
  | nil => exact ⟨⟨ts, h⟩, fun _ hk => hk, fun _ hk => .inl hk⟩
  | cons t terms ih =>
    obtain ⟨ht, hterms⟩ := List.forall_mem_cons.mp hterms
    obtain ⟨us, rs, hus, hin, hiff⟩ := h.marked hp ht
    obtain ⟨hmarkup, hkept, hsound⟩ := ih hus hterms
    refine ⟨hmarkup, fun k hk => hkept k ((hiff k).mpr (.inl hk)), fun k hk => ?_⟩
    rcases hsound k hk with hk | ⟨u, hu, hoccurs⟩
    · rcases (hiff k).mp hk with hk | ⟨r, hr, hstart, hstop⟩
      · exact .inl hk
      · obtain ⟨n, hoccurs, hn⟩ := hin r hr
        exact .inr ⟨t, List.mem_cons_self, r.start, n, hoccurs, hstart, Nat.lt_of_lt_of_le hstop hn⟩
    · exact .inr ⟨u, List.mem_cons_of_mem t hu, hoccurs⟩

/-- In a text without marks a term highlights all its matches. -/
theorem highlightedAt_mark (t : Query.Term) (hp : Unmarked text) {r : Span}
    (hr : r ∈ (Pattern.ofTerm t o).spans text) {k : Nat} (hk : r.start ≤ k ∧ k < r.stop) :
    HighlightedAt (shown 0 ((Pattern.ofTerm t o).mark text)) k := by
  have hw := wrapsAt_symbols 0 ((Pattern.ofTerm t o).pieces text)
  have hiff := highlightedAt_iff_of_wrapsAt hw 0 k
  rw [Nat.zero_add] at hiff
  have hplain : plain (symbols ((Pattern.ofTerm t o).pieces text)) = text := by
    rw [plain_symbols, textOf_pieces]
  have hdepth : depthAfter 0 (symbols ((Pattern.ofTerm t o).pieces text)) = some 0 := by
    rw [hw.wraps.depthAfter_eq, textOf_pieces]
    exact (markup_chars o text).balanced
  have hshown := shown_written (hplain ▸ hp) (by rw [hdepth]; rfl)
  rw [written_symbols] at hshown
  change HighlightedAt (shown 0 (markedText ((Pattern.ofTerm t o).pieces text))) k
  rw [hshown, hiff]
  exact .inr ⟨r, hr, hk⟩

end

/-- In an annotated paragraph without markers of its own, a character is highlighted only inside an
occurrence of a term in the paragraph, and with whole words that is one between edges of words. All
matches of the first term are highlighted, and what is so after some of the terms is so after all.
The characters shown are the paragraph's, and with colours those that are highlighted are painted,
line feeds apart. -/
theorem highlights_sound_and_kept {o : Options} {q : Query.Classified} {c : Compiled} {p a : String}
    (hp : Unmarked p.toList) (hq : ∀ t ∈ q.must ++ q.should, ClearOfMarkers t.value.toList)
    (hc : compile o q = .ok c) (ha : c.annotate? p = some a) :
    let terms := q.must ++ q.should
    let highlighted (s : List Char) (k : Nat) : Prop := HighlightedAt (shown 0 s) k
    (∀ k, highlighted a.toList k →
        ∃ t ∈ terms, ∃ i j, OccursAt t o p.toList i j ∧ i ≤ k ∧ k < j) ∧
      (∀ t ∈ terms.head?, ∀ r ∈ (Pattern.ofTerm t o).spans p.toList, ∀ k,
        r.start ≤ k ∧ k < r.stop → highlighted a.toList k) ∧
      markAll o terms p.toList = a.toList ∧
      (∀ j k, highlighted (markAll o (terms.take j) p.toList) k → highlighted a.toList k) ∧
      (shown 0 a.toList).map Shown.char = p.toList ∧
      Painted true (shown 0 a.toList) (showMarked true a).toList := by
  intro terms highlighted
  have hall : a.toList = markAll o terms p.toList := toList_of_annotate? hc ha
  have hstart := markup_chars o p.toList
  obtain ⟨⟨us, hus⟩, _, hsound⟩ := hstart.marked_all hp hq
  rw [← hall] at hus hsound
  refine ⟨fun k hk => ?_, fun t ht r hr k hk => ?_, hall.symm, fun j k hk => ?_, ?_, ?_⟩
  · rcases hsound k hk with hnone | hoccurs
    · rw [hstart.shown_eq hp] at hnone
      exact absurd hnone (not_highlightedAt_chars p.toList k)
    · exact hoccurs
  · obtain ⟨rest, hterms⟩ := List.head?_eq_some_iff.mp ht
    have hq' : ∀ u ∈ t :: rest, ClearOfMarkers u.value.toList := hterms ▸ hq
    obtain ⟨ht', hrest⟩ := List.forall_mem_cons.mp hq'
    obtain ⟨vs, _, hvs, _⟩ := hstart.marked hp ht'
    have hfirst := highlightedAt_mark t hp hr hk
    change HighlightedAt (shown 0 a.toList) k
    rw [hall, hterms]
    exact (hvs.marked_all hp hrest).2.1 k hfirst
  · have hsplit : a.toList = markAll o (terms.drop j) (markAll o (terms.take j) p.toList) := by
      rw [← markAll_append, List.take_append_drop, hall]
    obtain ⟨vs, hvs⟩ := (hstart.marked_all hp fun t ht => hq t (List.mem_of_mem_take ht)).1
    change HighlightedAt (shown 0 a.toList) k
    rw [hsplit]
    exact (hvs.marked_all hp fun t ht => hq t (List.mem_of_mem_drop ht)).2.1 k hk
  · rw [hus.shown_eq hp, map_char_seen, hus.plain_eq]
  · rw [showMarked, String.toList_ofList]
    exact painted_showFrom true 0 a.toList

/-- The second term is cut short by the mark of the first one, and its highlight is inside the
occurrence that it has without the mark. -/
theorem highlights_sound_and_kept_cut_short :
    let q : Query.Classified :=
      { must := [⟨.plain, "ox", false⟩], should := [⟨.plain, "f", true⟩] }
    let a := "<mark>f</mark><mark>ox</mark>es b<mark>ox</mark>"
    compile {} q = .ok (Compiled.ofQuery {} q) ∧
      (Compiled.ofQuery {} q).annotate? "foxes box" = some a ∧
      HighlightedAt (shown 0 a.toList) 8 ∧ HighlightedAt (shown 0 a.toList) 0 ∧
      ∃ t ∈ q.must ++ q.should, ∃ i j,
        OccursAt t {} "foxes box".toList i j ∧ i ≤ 0 ∧ 0 < j := by
  intro q a
  have hp : Unmarked "foxes box".toList := ⟨by decide +kernel, by decide +kernel⟩
  have hq : ∀ t ∈ q.must ++ q.should, ClearOfMarkers t.value.toList := by
    intro t ht
    rcases List.mem_cons.mp ht with rfl | ht
    · exact ⟨by decide +kernel, by decide +kernel, fun h => absurd h.head (by decide +kernel)⟩
    · obtain rfl := List.mem_singleton.mp ht
      exact ⟨by decide +kernel, by decide +kernel, fun h => absurd h.head (by decide +kernel)⟩
  have hc : compile {} q = .ok (Compiled.ofQuery {} q) := rfl
  have ha : (Compiled.ofQuery {} q).annotate? "foxes box" = some a := by decide +kernel
  obtain ⟨hsound, hfirst, _⟩ := highlights_sound_and_kept hp hq hc ha
  have hspan : (⟨7, 9⟩ : Span) ∈ (Pattern.ofTerm ⟨.plain, "ox", false⟩ {}).spans "foxes box".toList := by
    decide +kernel
  have hlit : HighlightedAt (shown 0 a.toList) 0 := by
    rw [show a.toList = markOpen ++ 'f' :: a.toList.drop 7 by decide +kernel, shown_open,
      shown_copy (by decide +kernel) (by decide +kernel)]
    exact ⟨_, rfl, Nat.one_pos⟩
  exact ⟨hc, ha, hfirst _ rfl _ hspan 8 (by decide), hlit, hsound 0 hlit⟩

end Passage.Terminal
