import Passage.Proofs.Match.Among
import Passage.Proofs.Match.Satisfies

/-!
# Marks inside occurrences

Where matches overlap, a term is matched among the markers of other terms, and those
may cut a match short or break it up. A match among markers begins where the term
occurs in the paragraph, and ends no later. With whole words this rests on the markers
standing at the edges of words, and each mark that is added keeps that up.
-/

namespace Passage.Match

open Text

/-! ## Wrapping at positions -/

theorem atEdges_marker {x : Symbol} (hx : x.IsMarker) (before : Option Char) (ts : List Symbol) :
    AtEdges before (x :: ts) ↔ isBoundary before (plain ts).head? ∧ AtEdges before ts := by
  cases x with
  | char c => cases hx
  | opening => rfl
  | closing => rfl

/-- The second text is the first with the given spans wrapped, the first character at place `i`. -/
inductive WrapsAt : Nat → List Span → List Symbol → List Symbol → Prop
  | nil {i : Nat} : WrapsAt i [] [] []
  | char (c : Char) {i : Nat} {rs : List Span} {ts us : List Symbol} : WrapsAt (i + 1) rs ts us →
      WrapsAt i rs (.char c :: ts) (.char c :: us)
  | marker {x : Symbol} {i : Nat} {rs : List Span} {ts us : List Symbol} : x.IsMarker →
      WrapsAt i rs ts us → WrapsAt i rs (x :: ts) (x :: us)
  | wrap (s : List Char) {i : Nat} {rs : List Span} {ts us : List Symbol} :
      WrapsAt (i + s.length) rs ts us →
      WrapsAt i (⟨i, i + s.length⟩ :: rs) (s.map .char ++ ts)
        (.opening :: s.map .char ++ .closing :: us)

theorem WrapsAt.wraps {i : Nat} {rs : List Span} {ts us : List Symbol} (h : WrapsAt i rs ts us) :
    Wraps ts us := by
  induction h with
  | nil => exact .nil
  | char c _ ih => exact .keep _ ih
  | marker _ _ ih => exact .keep _ ih
  | wrap s _ ih => exact .wrap s ih

theorem WrapsAt.le_start {i : Nat} {rs : List Span} {ts us : List Symbol}
    (h : WrapsAt i rs ts us) : ∀ r ∈ rs, i ≤ r.start := by
  induction h with
  | nil => nofun
  | char c _ ih => exact fun r hr => Nat.le_of_succ_le (ih r hr)
  | marker _ _ ih => exact ih
  | wrap s _ ih =>
    exact List.forall_mem_cons.mpr ⟨Nat.le_refl _, fun r hr => Nat.le_of_add_right_le (ih r hr)⟩

/-- Cutting wraps the spans of the hits. -/
theorem wrapsAt_symbols (i : Nat) (xs : List Piece) :
    WrapsAt i (spansFrom List.length i xs) ((textOf xs).map .char) (symbols xs) := by
  induction xs generalizing i with
  | nil => exact .nil
  | cons x xs ih =>
    cases x with
    | keep c => exact .char c (ih (i + 1))
    | hit s =>
      rw [spansFrom_hit, textOf_cons, Piece.text, List.map_append, symbols_hit]
      exact .wrap s (ih (i + s.length))

/-! ## Matching along marked text -/

/-- Where matching has come to in marked text: at place `i` of the unmarked one, `marked` in front
and `ts` behind. -/
structure Reading (whole : Bool) (text : List Char) (i : Nat) (marked : Option Char) (beside : Bool)
    (ts : List Symbol) : Prop where
  inside : i ≤ text.length
  plain_eq : plain ts = text.drop i
  front : Beside whole beside (prior none text i) marked (plain ts).head?
  edges : whole = true → AtEdges (prior none text i) ts

namespace Reading

variable {whole beside : Bool} {text : List Char} {i : Nat} {marked : Option Char}
  {ts : List Symbol}

theorem marker {x : Symbol} (hx : x.IsMarker)
    (h : Reading whole text i marked beside (x :: ts)) : Reading whole text i (some '>') true ts where
  inside := h.inside
  plain_eq := by rw [← h.plain_eq, plain_marker hx]
  front := .behind fun hw => ((atEdges_marker hx _ ts).mp (h.edges hw)).1
  edges hw := ((atEdges_marker hx _ ts).mp (h.edges hw)).2

theorem stretch {u : List Char} (hu : u ≠ [])
    (h : Reading whole text i marked beside (u.map .char ++ ts)) :
    Reading whole text (i + u.length) u.getLast? false ts ∧
      u.getLast? = prior none text (i + u.length) := by
  have hplain : u ++ plain ts = text.drop i := by
    rw [← h.plain_eq, plain_append, plain_chars]
  have hlen : i + u.length ≤ text.length := by
    have hl := congrArg List.length hplain
    have hi := h.inside
    rw [List.length_append, List.length_drop] at hl
    omega
  have hlast : u.getLast? = prior none text (i + u.length) := by
    obtain ⟨n, hn⟩ := Nat.exists_eq_add_one_of_ne_zero (mt List.length_eq_zero_iff.mp hu)
    have htake : u = (text.drop i).take (n + 1) := by rw [← hplain, ← hn, List.take_left]
    rw [hn] at hlen ⊢
    rw [htake, getLast?_take_drop hlen]
  refine ⟨⟨hlen, ?_, ?_, fun hw => ?_⟩, hlast⟩
  · rw [← List.drop_drop, ← hplain, List.drop_left]
  · rw [← hlast]
    exact Beside.same whole _ _
  · rw [← hlast]
    exact (atEdges_stretch _ hu ts).mp (h.edges hw)

end Reading

/-- The stretch begins where the term occurs in the text, and ends no later. -/
def Inside (t : Query.Term) (o : Options) (text : List Char) (r : Span) : Prop :=
  ∃ n, OccursAt t o text r.start n ∧ r.stop ≤ n

/-- From here on matching wraps stretches inside occurrences, and new markers are at edges. -/
def WrapsInside (t : Query.Term) (o : Options) (text : List Char) (i : Nat) (marked : Option Char)
    (ts : List Symbol) : Prop :=
  ∃ us rs, markedText ((Pattern.ofTerm t o).cut marked false (written ts)) = written us ∧
    WrapsAt i rs ts us ∧ (∀ r ∈ rs, Inside t o text r) ∧
    (o.wholeWord = true → AtEdges (prior none text i) us)

section

variable {t : Query.Term} {o : Options} {text : List Char} {i : Nat} {marked : Option Char}
  {beside : Bool} {ts : List Symbol}

theorem wrapsInside_nil (ht : ClearOfMarkers t.value.toList) :
    WrapsInside t o text i marked [] := by
  refine ⟨[], [], ?_, .nil, nofun, fun _ => trivial⟩
  rw [show written [] = [] from rfl, cut_nil ht.ne_nil]
  rfl

/-- A marker is passed over as a whole. -/
theorem wrapsInside_marker {x : Symbol} (hx : x.IsMarker) (ht : ClearOfMarkers t.value.toList)
    (h : Reading o.wholeWord text i marked beside (x :: ts))
    (ih : WrapsInside t o text i (some '>') ts) : WrapsInside t o text i marked (x :: ts) := by
  obtain ⟨us, rs, hcut, hw, hin, he⟩ := ih
  refine ⟨x :: us, rs, ?_, .marker hx hw, hin, fun hwhole => ?_⟩
  · rw [written_cons, cut_marker ht hx.text_eq, markedText_append, markedText_keeps, hcut,
      written_cons]
  · have hedge := ((atEdges_marker hx _ ts).mp (h.edges hwhole)).1
    rw [← hw.wraps.plain_eq] at hedge
    exact (atEdges_marker hx _ us).mpr ⟨hedge, he hwhole⟩

/-- Where nothing is matched at a character it stays as it is. -/
theorem wrapsInside_keep {c : Char}
    (h : Reading o.wholeWord text i marked beside (.char c :: ts))
    (hnone : (Pattern.ofTerm t o).lengthAt? marked (c :: written ts) = none)
    (ih : WrapsInside t o text (i + 1) (some c) ts) :
    WrapsInside t o text i marked (.char c :: ts) := by
  obtain ⟨us, rs, hcut, hw, hin, he⟩ := ih
  have hc : some c = prior none text (i + 1) := (h.stretch (u := [c]) (List.cons_ne_nil c [])).2
  refine ⟨.char c :: us, rs, ?_, .char c hw, hin, fun hwhole => ?_⟩
  · change markedText ((Pattern.ofTerm t o).cut marked false (c :: written ts)) = c :: written us
    rw [cut_of_none hnone, markedText_cons, hcut]
    rfl
  · have hedges := he hwhole
    rwa [← hc] at hedges

/-- A match at a character is wrapped, and the term occurs there. -/
theorem wrapsInside_hit {u : List Char} (hu : u ≠ []) (ht : ClearOfMarkers t.value.toList)
    (h : Reading o.wholeWord text i marked beside (u.map .char ++ ts))
    (htakes : (Pattern.ofTerm t o).Takes marked u (written ts).head?)
    (ih : WrapsInside t o text (i + u.length) u.getLast? ts) :
    WrapsInside t o text i marked (u.map .char ++ ts) := by
  obtain ⟨us, rs, hcut, hw, hin, he⟩ := ih
  obtain ⟨hrest, hlast⟩ := h.stretch hu
  have hfront := h.front
  have hplain := h.plain_eq
  rw [plain_append, plain_chars] at hfront hplain
  rw [List.head?_append_of_ne_nil u hu] at hfront
  have hbehind : (Pattern.ofTerm t o).options.wholeWord = true → AtEdges u.getLast? ts := by
    intro hwhole
    rw [hlast]
    exact hrest.edges hwhole
  obtain ⟨n, hn, hlength⟩ := htakes.exists_length hu hfront hbehind
  rw [hplain] at hlength
  have hoccurs := (lengthAt?_eq_some_iff t o text h.inside n).mp hlength
  refine ⟨.opening :: u.map .char ++ .closing :: us, ⟨i, i + u.length⟩ :: rs, ?_, .wrap u hw,
    List.forall_mem_cons.mpr ⟨⟨i + n, hoccurs, Nat.add_le_add_left hn i⟩, hin⟩, fun hwhole => ?_⟩
  · have hmatch := (lengthAt?_append_iff marked hu (written ts)).mpr htakes
    rw [written_append, written_chars, cut_of_length ht.ne_nil hu hmatch, markedText_cons, hcut,
      List.cons_append, written_cons, written_append, written_chars, written_cons]
    simp [Piece.marked, Symbol.text]
  · obtain ⟨hstart, hstop⟩ := htakes.edges_plain hfront hbehind hwhole
    have hplain' : plain (u.map .char ++ .closing :: us) = u ++ plain us := by
      rw [plain_append, plain_chars]
      rfl
    change AtEdges _ (.opening :: (u.map .char ++ .closing :: us))
    rw [atEdges_marker (x := .opening) rfl, hplain', List.head?_append_of_ne_nil u hu,
      atEdges_stretch _ hu, atEdges_marker (x := .closing) rfl, hw.wraps.plain_eq]
    exact ⟨hstart, hstop, hlast ▸ he hwhole⟩

/-- In marked text whose markers are at edges, a term is matched inside its occurrences. -/
theorem wrapsInside (ht : ClearOfMarkers t.value.toList)
    (h : Reading o.wholeWord text i marked beside ts) : WrapsInside t o text i marked ts := by
  -- after a match the text goes on behind it, so the induction is on the length
  induction hlen : ts.length using Nat.strong_induction_on generalizing i marked beside ts with
  | h n ih =>
    cases ts with
    | nil => exact wrapsInside_nil ht
    | cons x ts =>
      have hmarker : x.IsMarker → WrapsInside t o text i marked (x :: ts) := fun hx =>
        wrapsInside_marker hx ht h (ih ts.length (by simp [← hlen]) (h.marker hx) rfl)
      cases x with
      | opening => exact hmarker rfl
      | closing => exact hmarker rfl
      | char c =>
        cases hl : (Pattern.ofTerm t o).lengthAt? marked (written (.char c :: ts)) with
        | none =>
          have hrest := (h.stretch (List.cons_ne_nil c [])).1
          exact wrapsInside_keep h hl (ih ts.length (by simp [← hlen]) hrest rfl)
        | some k =>
          obtain ⟨u, us, hu, hus, htakes⟩ := exists_stretch (p := Pattern.ofTerm t o) ht hl
          rw [hus] at h hlen ⊢
          have hlt : us.length < n := by
            have hpos := List.length_pos_iff.mpr hu
            rw [← hlen, List.length_append, List.length_map]
            omega
          exact wrapsInside_hit hu ht h htakes (ih us.length hlt (h.stretch hu).1 rfl)

/-- Marking marked text wraps stretches inside occurrences of the term, and keeps all markers at the
edges of words if whole words are searched for. -/
theorem mark_wrapsAt (ht : ClearOfMarkers t.value.toList) (hplain : plain ts = text)
    (he : o.wholeWord = true → AtEdges none ts) :
    ∃ us rs, (Pattern.ofTerm t o).mark (written ts) = written us ∧ WrapsAt 0 rs ts us ∧
      (∀ r ∈ rs, Inside t o text r) ∧ (o.wholeWord = true → AtEdges none us) :=
  wrapsInside ht ⟨Nat.zero_le _, hplain, Beside.same _ none _, he⟩

end

end Passage.Match
