import Passage.Proofs.Match.Marked
import Passage.Proofs.Match.Satisfies
import Passage.Proofs.Terminal.Unmark

/-!
# What stays visible of a marked paragraph

The markers in a marked paragraph are exactly those that were put there, because no
part of the paragraph joins with a marker to another one. They are properly nested,
and showing the paragraph without colours gives it back. Paragraphs that contain a
marker of their own are left out.
-/

namespace Passage.Terminal

open Match

/-! ## Markers in marked text -/

/-- A text that contains no marker. -/
structure Unmarked (s : List Char) : Prop where
  noOpening : ¬ markOpen <:+: s
  noClosing : ¬ markClose <:+: s

theorem Unmarked.resolved {s : List Char} (h : Unmarked s) : Resolved (s.map .char) := by
  induction s with
  | nil => trivial
  | cons c s ih =>
    have hs : s <:+: c :: s := (List.suffix_cons c s).isInfix
    have htail : Unmarked s :=
      ⟨fun ho => h.noOpening (ho.trans hs), fun hc => h.noClosing (hc.trans hs)⟩
    refine ⟨?_, ih htail⟩
    rw [written_chars]
    exact ⟨fun ho => h.noOpening ho.isInfix, fun hc => h.noClosing hc.isInfix⟩

/-- No marker begins at a character of such a text, wherever markers are put into it. -/
theorem Unmarked.resolved_of_plain {ts : List Symbol} (h : Unmarked (plain ts)) : Resolved ts :=
  (inserts_plain ts).resolved h.resolved

/-- The characters of marked text, `depth` marks being open. -/
def seen (depth : Nat) : List Symbol → List Shown
  | [] => []
  | .char c :: ts => ⟨c, depth⟩ :: seen depth ts
  | .opening :: ts => seen (depth + 1) ts
  | .closing :: ts => seen (depth - 1) ts

theorem map_char_seen (depth : Nat) (ts : List Symbol) :
    (seen depth ts).map Shown.char = plain ts := by
  induction ts generalizing depth with
  | nil => rfl
  | cons x ts ih =>
    cases x with
    | char c => exact congrArg (c :: ·) (ih depth)
    | opening => exact ih (depth + 1)
    | closing => exact ih (depth - 1)

/-- The scanner finds the markers that are symbols and no others. -/
theorem shown_resolved {depth : Nat} {ts : List Symbol} (h : Resolved ts)
    (hd : (depthAfter depth ts).isSome) : shown depth (written ts) = seen depth ts := by
  induction ts generalizing depth with
  | nil => rw [show written [] = [] from rfl, shown]; rfl
  | cons x ts ih =>
    cases x with
    | char c =>
      change shown depth (c :: written ts) = ⟨c, depth⟩ :: seen depth ts
      rw [shown_copy h.1.1 fun hc => h.1.2 hc.2, ih h.2 hd]
    | opening =>
      rw [written_cons, Symbol.text, shown_open, ih h hd]
      rfl
    | closing =>
      cases depth with
      | zero => simp [depthAfter] at hd
      | succ depth =>
        have hi : shown depth (written ts) = seen depth ts := ih h hd
        rw [written_cons, Symbol.text, shown_close, hi]
        rfl

theorem shown_written {depth : Nat} {ts : List Symbol} (h : Unmarked (plain ts))
    (hd : (depthAfter depth ts).isSome) : shown depth (written ts) = seen depth ts :=
  shown_resolved h.resolved_of_plain hd

/-- Reading past the markers gives the characters between them. -/
theorem unmark_written {depth : Nat} {ts : List Symbol} (h : Unmarked (plain ts))
    (hd : (depthAfter depth ts).isSome) : unmark depth (written ts) = plain ts := by
  rw [unmark_eq_map_shown, shown_written h hd, map_char_seen]

/-! ## Nesting -/

/-- The places of a text where another one begins. -/
def occurrences (w : List Char) : List Char → Nat
  | [] => 0
  | c :: s => occurrences w s + if w <+: c :: s then 1 else 0

/-- No prefix has more closing markers than opening ones, and all in all there are as many. -/
structure Nested (a : List Char) : Prop where
  prefixes : ∀ u, u <+: a → occurrences markClose u ≤ occurrences markOpen u
  total : occurrences markClose a = occurrences markOpen a

theorem occurrences_stretch (w : List Char) {v : List Char} (hv : '<' ∉ v) (s : List Char) :
    occurrences ('<' :: w) (v ++ s) = occurrences ('<' :: w) s := by
  induction v with
  | nil => rfl
  | cons c v ih =>
    obtain ⟨hc, hv'⟩ := not_or.mp (fun h => hv (List.mem_cons.mpr h))
    have hno : ¬ '<' :: w <+: c :: (v ++ s) := fun h => hc (List.cons_prefix_cons.mp h).1
    rw [List.cons_append, occurrences, if_neg hno, Nat.add_zero, ih hv']

/-- A marker begins nowhere in another one but at its start. -/
theorem occurrences_marker {w v : List Char} (hv : '<' ∉ v) (s : List Char) :
    occurrences ('<' :: w) ('<' :: v ++ s) =
      occurrences ('<' :: w) s + if '<' :: w <+: '<' :: v ++ s then 1 else 0 := by
  rw [List.cons_append, occurrences, occurrences_stretch w hv]

theorem occurrences_markOpen (s : List Char) :
    occurrences markOpen (markOpen ++ s) = occurrences markOpen s + 1 ∧
      occurrences markClose (markOpen ++ s) = occurrences markClose s := by
  rw [markOpen_eq, markClose_eq]
  constructor
  · rw [occurrences_marker (by decide), if_pos (List.prefix_append _ _)]
  · rw [occurrences_marker (by decide), if_neg (by simp), Nat.add_zero]

theorem occurrences_markClose (s : List Char) :
    occurrences markOpen (markClose ++ s) = occurrences markOpen s ∧
      occurrences markClose (markClose ++ s) = occurrences markClose s + 1 := by
  rw [markOpen_eq, markClose_eq]
  constructor
  · rw [occurrences_marker (by decide), if_neg (by simp), Nat.add_zero]
  · rw [occurrences_marker (by decide), if_pos (List.prefix_append _ _)]

theorem occurrences_char {c : Char} {ts : List Symbol} (h : Resolved (.char c :: ts))
    {u : List Char} (hu : u <+: written ts) :
    occurrences markOpen (c :: u) = occurrences markOpen u ∧
      occurrences markClose (c :: u) = occurrences markClose u := by
  have hcu : c :: u <+: c :: written ts := List.cons_prefix_cons.mpr ⟨rfl, hu⟩
  constructor
  · rw [occurrences, if_neg fun ho => h.1.1 (ho.trans hcu), Nat.add_zero]
  · rw [occurrences, if_neg fun hc => h.1.2 (hc.trans hcu), Nat.add_zero]

theorem prefix_append_cases {u v s : List Char} (h : u <+: v ++ s) :
    u <+: v ∨ ∃ q, q <+: s ∧ u = v ++ q := by
  rcases List.prefix_or_prefix_of_prefix h (List.prefix_append v s) with hv | ⟨q, rfl⟩
  · exact Or.inl hv
  · exact Or.inr ⟨q, (List.prefix_append_right_inj v).mp h, rfl⟩

/-- A piece of a marker closes nothing that the marker does not close. -/
theorem occurrences_piece : (∀ u ∈ markOpen.inits, occurrences markClose u = 0) ∧
    ∀ u ∈ markClose.inits, occurrences markClose u ≤ 1 := by decide

theorem occurrences_prefix_le {depth : Nat} {ts : List Symbol} (h : Resolved ts)
    (hd : (depthAfter depth ts).isSome) {u : List Char} (hu : u <+: written ts) :
    occurrences markClose u ≤ depth + occurrences markOpen u := by
  induction ts generalizing depth u with
  | nil => simp [List.prefix_nil.mp hu, occurrences]
  | cons x ts ih =>
    cases x with
    | char c =>
      rcases List.prefix_cons_iff.mp (show u <+: c :: written ts from hu) with rfl | ⟨v, rfl, hv⟩
      · simp [occurrences]
      · have hc := occurrences_char h hv
        rw [hc.1, hc.2]
        exact ih h.2 hd hv
    | opening =>
      rcases prefix_append_cases (show u <+: markOpen ++ written ts from hu) with hm | ⟨v, hv, rfl⟩
      · rw [occurrences_piece.1 u ((List.mem_inits u markOpen).mpr hm)]
        exact Nat.zero_le _
      · have hi := ih h hd hv
        have ho := occurrences_markOpen v
        omega
    | closing =>
      cases depth with
      | zero => simp [depthAfter] at hd
      | succ depth =>
        rcases prefix_append_cases (show u <+: markClose ++ written ts from hu) with
          hm | ⟨v, hv, rfl⟩
        · have := occurrences_piece.2 u ((List.mem_inits u markClose).mpr hm)
          omega
        · have hi := ih h hd hv
          have hc := occurrences_markClose v
          omega

theorem occurrences_written {depth rest : Nat} {ts : List Symbol} (h : Resolved ts)
    (hd : depthAfter depth ts = some rest) :
    occurrences markClose (written ts) + rest = depth + occurrences markOpen (written ts) := by
  induction ts generalizing depth with
  | nil =>
    obtain rfl := Option.some.inj hd
    simp [written, occurrences]
  | cons x ts ih =>
    cases x with
    | char c =>
      have hc := occurrences_char h List.prefix_rfl
      have hi := ih h.2 hd
      change occurrences markClose (c :: written ts) + rest =
        depth + occurrences markOpen (c :: written ts)
      rw [hc.1, hc.2, hi]
    | opening =>
      have hi := ih h hd
      have ho := occurrences_markOpen (written ts)
      rw [written_cons, Symbol.text]
      omega
    | closing =>
      cases depth with
      | zero => simp [depthAfter] at hd
      | succ depth =>
        have hi := ih h hd
        have hc := occurrences_markClose (written ts)
        rw [written_cons, Symbol.text]
        omega

theorem nested_written {ts : List Symbol} (h : Unmarked (plain ts))
    (hd : depthAfter 0 ts = some 0) : Nested (written ts) where
  prefixes := by
    intro u hu
    have := occurrences_prefix_le h.resolved_of_plain (by rw [hd]; rfl) hu
    omega
  total := by
    have := occurrences_written h.resolved_of_plain hd
    omega

/-! ## Annotated paragraphs -/

/-- Applying patterns one after another keeps the characters and the balance of the marks. -/
theorem foldl_mark {ps : List Pattern} (hp : ∀ p ∈ ps, ClearOfMarkers p.literal)
    (ts : List Symbol) :
    ∃ us, ps.foldl (fun s p => p.mark s) (written ts) = written us ∧ plain us = plain ts ∧
      ∀ depth, depthAfter depth us = depthAfter depth ts := by
  induction ps generalizing ts with
  | nil => exact ⟨ts, rfl, rfl, fun _ => rfl⟩
  | cons p ps ih =>
    obtain ⟨us, hus, hw⟩ := mark_wraps (hp p List.mem_cons_self) ts
    obtain ⟨vs, hvs, hplain, hdepth⟩ := ih (fun r hr => hp r (List.mem_cons_of_mem p hr)) us
    refine ⟨vs, ?_, hplain.trans hw.plain_eq, fun d => (hdepth d).trans (hw.depthAfter_eq d)⟩
    rw [List.foldl_cons, hus, hvs]

/-- A paragraph without markers of its own that satisfies a query is shown as it is, whatever terms
were marked in it, and its markers are nested. -/
theorem annotated_shown_as_is {o : Options} {q : Query.Classified} {c : Compiled} {p a : String}
    (hp : Unmarked p.toList) (hq : ∀ t ∈ q.must ++ q.should, ClearOfMarkers t.value.toList)
    (hc : compile o q = .ok c) (ha : c.annotate? p = some a) :
    showMarked false a = p ∧ Nested a.toList ∧
      ∃ ts, plain ts = p.toList ∧ written ts = a.toList := by
  obtain ⟨_, rfl⟩ := (compile_eq_ok_iff o q c).mp hc
  have hclear : ∀ r ∈ (Compiled.ofQuery o q).must ++ (Compiled.ofQuery o q).should,
      ClearOfMarkers r.literal := by
    intro r hr
    rw [Compiled.ofQuery, ← List.map_append] at hr
    obtain ⟨t, ht, rfl⟩ := List.mem_map.mp hr
    exact hq t ht
  obtain ⟨ts, hts, hplain, hdepth⟩ := foldl_mark hclear (p.toList.map .char)
  rw [written_chars] at hts
  rw [plain_chars] at hplain
  have hbalance : depthAfter 0 ts = some 0 := by
    rw [hdepth, ← List.append_nil (p.toList.map Symbol.char), depthAfter_chars]
    rfl
  unfold Compiled.annotate? at ha
  split at ha
  · obtain rfl := Option.some.inj ha
    rw [hts, String.toList_ofList]
    refine ⟨?_, nested_written (hplain ▸ hp) hbalance, ts, hplain, rfl⟩
    rw [showMarked, String.toList_ofList, showFrom_false,
      unmark_written (hplain ▸ hp) (by rw [hbalance]; rfl), hplain, String.ofList_toList]
  · cases ha

/-- Two terms wrap one word twice in a paragraph that has half a marker of its own. -/
theorem annotated_shown_as_is_twice :
    let q : Query.Classified :=
      { must := [⟨.plain, "foxes", false⟩], should := [⟨.plain, "fox", true⟩] }
    let a := "a <mar <mark><mark>foxes</mark></mark> <mark>fox</mark>"
    compile {} q = .ok (Compiled.ofQuery {} q) ∧
      (Compiled.ofQuery {} q).annotate? "a <mar foxes fox" = some a ∧
      showMarked false a = "a <mar foxes fox" ∧ Nested a.toList := by
  intro q a
  have hp : Unmarked "a <mar foxes fox".toList := ⟨by decide +kernel, by decide +kernel⟩
  have hf : ∀ v, ¬ FoldsInto ('f' :: v) "/mark".toList := by
    intro v h
    exact absurd h.head (by decide +kernel)
  have hq : ∀ t ∈ q.must ++ q.should, ClearOfMarkers t.value.toList := by
    intro t ht
    rcases List.mem_cons.mp ht with rfl | ht
    · exact ⟨by decide +kernel, by decide +kernel, hf _⟩
    · obtain rfl := List.mem_singleton.mp ht
      exact ⟨by decide +kernel, by decide +kernel, hf _⟩
  have hc : compile {} q = .ok (Compiled.ofQuery {} q) := rfl
  have ha : (Compiled.ofQuery {} q).annotate? "a <mar foxes fox" = some a := by decide +kernel
  obtain ⟨hshown, hnested, _⟩ := annotated_shown_as_is hp hq hc ha
  exact ⟨hc, ha, hshown, hnested⟩

end Passage.Terminal
