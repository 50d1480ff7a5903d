import Passage.Proofs.Match.Marked
import Passage.Proofs.Match.Satisfies
import Passage.Proofs.Terminal.Unmark

/-!
# Paragraphs with markers of their own

A paragraph may hold the text of a marker. Marking neither breaks such a text up nor
completes one, so an annotated paragraph is shown as it would be without its marks.
A closing marker of its own is kept as long as no mark is open there. An opening one
cannot be told from a mark and is dropped, and so are closing ones behind it. So
exactly the paragraphs without an opening marker are shown as they are.
-/

namespace Passage.Terminal

open Match

/-! ## Reading past wrapped stretches -/

/-- A closing marker that closes nothing is a part of the text. -/
theorem unmark_stray_close (s : List Char) : unmark 0 (markClose ++ s) = markClose ++ unmark 0 s := by
  have htail : ∀ c ∈ "/mark>".toList, c ≠ '<' := by decide
  change unmark 0 ('<' :: ("/mark>".toList ++ s)) = '<' :: ("/mark>".toList ++ unmark 0 s)
  rw [unmark_copy (by simp [markOpen_eq]) (by simp), unmark_stretch 0 htail]

theorem unmark_chars (depth : Nat) {s : List Char} {ts : List Symbol}
    (h : Resolved (s.map .char ++ ts)) :
    unmark depth (s ++ written ts) = s ++ unmark depth (written ts) := by
  induction s with
  | nil => rfl
  | cons c s ih =>
    rw [List.map_cons, List.cons_append] at h
    obtain ⟨⟨ho, hc⟩, hs⟩ := h
    rw [written_append, written_chars] at ho hc
    rw [List.cons_append, unmark_copy ho fun h => hc h.2, ih hs, List.cons_append]

/-- Nothing is seen of the marks that wrap stretches of a text. -/
theorem unmark_wraps {ts us : List Symbol} (h : Wraps ts us) (hr : Resolved ts) (depth : Nat) :
    unmark depth (written us) = unmark depth (written ts) := by
  induction h generalizing depth with
  | nil => rfl
  | @keep x ts us hw ih =>
    cases x with
    | char c =>
      have hus : Resolved (.char c :: us) := (Wraps.keep _ hw).inserts.resolved hr
      have hts := unmark_chars depth (s := [c]) hr
      change unmark depth ([c] ++ written us) = unmark depth ([c] ++ written ts)
      rw [unmark_chars depth (s := [c]) hus, hts, ih hr.2]
    | opening => rw [written_cons, written_cons, Symbol.text, unmark_open, unmark_open, ih hr]
    | closing =>
      cases depth with
      | zero =>
        rw [written_cons, written_cons, Symbol.text, unmark_stray_close, unmark_stray_close, ih hr]
      | succ depth =>
        rw [written_cons, written_cons, Symbol.text, unmark_close, unmark_close, ih hr]
  | @wrap s ts us hw ih =>
    have hus : Resolved (s.map .char ++ .closing :: us) := (Wraps.wrap s hw).inserts.resolved hr
    have hwritten : written (.opening :: s.map .char ++ .closing :: us) =
        markOpen ++ (s ++ written (.closing :: us)) := by
      rw [List.cons_append, written_cons, written_append, written_chars]
      rfl
    rw [hwritten, unmark_open, unmark_chars _ hus, written_cons, Symbol.text, unmark_close,
      ih hr.of_chars, written_append, written_chars, unmark_chars _ hr]

theorem unmark_mark {r : Pattern} (hr : ClearOfMarkers r.literal) (depth : Nat) (s : List Char) :
    unmark depth (r.mark s) = unmark depth s := by
  obtain ⟨ts, rfl, hts⟩ := exists_resolved s
  obtain ⟨us, hus, hw⟩ := mark_wraps hr ts
  rw [hus, unmark_wraps hw hts]

theorem unmark_markAll {o : Options} {terms : List Query.Term}
    (h : ∀ t ∈ terms, ClearOfMarkers t.value.toList) (depth : Nat) (s : List Char) :
    unmark depth (markAll o terms s) = unmark depth s := by
  induction terms generalizing s with
  | nil => rfl
  | cons t terms ih =>
    obtain ⟨ht, hterms⟩ := List.forall_mem_cons.mp h
    have hmark := unmark_mark (r := Pattern.ofTerm t o) ht depth s
    exact (ih hterms ((Pattern.ofTerm t o).mark s)).trans hmark

/-! ## Opening markers -/

theorem length_unmark_le (depth : Nat) (s : List Char) : (unmark depth s).length ≤ s.length := by
  induction depth, s using unmark.induct with
  | case1 depth => rw [unmark]
  | case2 depth c rest ho ih =>
    rw [unmark, if_pos ho]
    exact ih.trans (List.drop_sublist _ _).length_le
  | case3 depth c rest ho hc ih =>
    rw [unmark, if_neg ho, if_pos hc]
    exact ih.trans (List.drop_sublist _ _).length_le
  | case4 depth c rest ho hc ih =>
    rw [unmark, if_neg ho, if_neg hc]
    exact Nat.succ_le_succ ih

/-- An opening marker is dropped wherever it stands. -/
theorem length_unmark_lt (depth : Nat) {s : List Char} (h : markOpen <:+: s) :
    (unmark depth s).length < s.length := by
  induction depth, s using unmark.induct with
  | case1 depth => simp [markOpen_eq] at h
  | case2 depth c rest ho ih =>
    obtain ⟨s, hs⟩ := ho
    rw [← hs, unmark_open]
    have hle := length_unmark_le (depth + 1) s
    simp [markOpen_eq]
    omega
  | case3 depth c rest ho hc ih =>
    obtain ⟨s, hs⟩ := hc.2
    obtain ⟨d, rfl⟩ := Nat.exists_eq_succ_of_ne_zero hc.1
    rw [← hs, unmark_close]
    have hle := length_unmark_le d s
    simp [markClose_eq]
    omega
  | case4 depth c rest ho hc ih =>
    rcases List.infix_cons_iff.mp h with hp | hrest
    · exact absurd hp ho
    · rw [unmark_copy ho hc]
      exact Nat.succ_lt_succ (ih hrest)

theorem unmark_eq_self_iff (s : List Char) : unmark 0 s = s ↔ ¬ markOpen <:+: s := by
  constructor
  · intro hs h
    have hlt := length_unmark_lt 0 h
    rw [hs] at hlt
    exact Nat.lt_irrefl _ hlt
  · intro h
    induction s with
    | nil => rw [unmark]
    | cons c s ih =>
      obtain ⟨ho, hs⟩ := not_or.mp (mt List.infix_cons_iff.mpr h)
      rw [unmark_copy ho fun hc => hc.1 rfl, ih hs]

/-! ## Annotated paragraphs -/

/-- Whatever markers a paragraph has of its own, annotated with a query that matches no marker it is
shown as it would be without the marks, and that is as it is unless it has an opening marker. -/
theorem annotated_shown_as_alone {o : Options} {q : Query.Classified} {c : Compiled} {p a : String}
    (hq : ∀ t ∈ q.must ++ q.should, ClearOfMarkers t.value.toList)
    (hc : compile o q = .ok c) (ha : c.annotate? p = some a) :
    showMarked false a = showMarked false p ∧
      (showMarked false a = p ↔ ¬ markOpen <:+: p.toList) := by
  have hshown : showMarked false a = showMarked false p := by
    rw [showMarked, showMarked, showFrom_false, showFrom_false, toList_of_annotate? hc ha,
      unmark_markAll hq]
  refine ⟨hshown, ?_⟩
  rw [hshown, showMarked, showFrom_false, ← unmark_eq_self_iff, ← String.toList_inj,
    String.toList_ofList]

/-- A closing marker that the paragraph has of its own is shown. -/
theorem annotated_shown_as_alone_stray :
    let q : Query.Classified := { must := [⟨.plain, "fox", false⟩] }
    let a := "a </mark> b <mark>fox</mark>"
    compile {} q = .ok (Compiled.ofQuery {} q) ∧
      (Compiled.ofQuery {} q).annotate? "a </mark> b fox" = some a ∧
      showMarked false a = "a </mark> b fox" := by
  intro q a
  have hq : ∀ t ∈ q.must ++ q.should, ClearOfMarkers t.value.toList := by
    intro t ht
    obtain rfl := List.mem_singleton.mp ht
    exact ⟨by decide +kernel, by decide +kernel, fun h => absurd h.head (by decide +kernel)⟩
  have hc : compile {} q = .ok (Compiled.ofQuery {} q) := rfl
  have ha : (Compiled.ofQuery {} q).annotate? "a </mark> b fox" = some a := by decide +kernel
  exact ⟨hc, ha, (annotated_shown_as_alone hq hc ha).2.mpr (by decide +kernel)⟩

/-- An opening marker that the paragraph has of its own is dropped. -/
theorem own_opening_marker_dropped :
    let t : Query.Term := ⟨.plain, "fox", false⟩
    let p := "use <mark> for a fox"
    let a := "use <mark> for a <mark>fox</mark>"
    ClearOfMarkers t.value.toList ∧
      (compile {} { must := [t] }).map (·.annotate? p) = .ok (some a) ∧
      showMarked false a = "use  for a fox" ∧ showMarked false a ≠ p := by
  intro t p a
  have ht : ClearOfMarkers "fox".toList :=
    ⟨by decide +kernel, by decide +kernel, fun h => absurd h.head (by decide +kernel)⟩
  have ha : (compile {} { must := [t] }).map (·.annotate? p) = .ok (some a) := by decide +kernel
  have hshown : showMarked false a = "use  for a fox" := by decide +kernel
  exact ⟨ht, ha, hshown, hshown ▸ by decide +kernel⟩

end Passage.Terminal
