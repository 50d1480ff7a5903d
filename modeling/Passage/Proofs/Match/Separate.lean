import Passage.Proofs.Match.Among
import Passage.Proofs.Match.Satisfies

/-!
# Terms whose matches are separate

Terms are marked one after another, each in a text that has the markers of the others
already. Where the matches of different terms do not overlap, and with whole words do
not touch either, each is marked once where it stands in the paragraph. So it makes no
difference in which order the terms come, or which of them are optional.
-/

namespace Passage.Match

open Text

/-! ## The hits of a pattern -/

section

variable {p : Pattern}

theorem solid_cut (hp : p.literal ≠ []) (before : Option Char) (joined : Bool) (s : List Char) :
    Solid (p.cut before joined s) := by
  induction before, joined, s using Pattern.cut.induct p with
  | case1 before joined h => rw [cut_nil hp]; exact solid_nil
  | case2 before joined h => rw [cut_nil hp]; exact solid_nil
  | case3 before joined c rest h ih =>
    rw [Pattern.cut, h]
    exact solid_cons.mpr ⟨List.cons_ne_nil c [], ih⟩
  | case4 before c rest h _ => exact absurd (length_pos_of_lengthAt? hp h) (Nat.lt_irrefl 0)
  | case5 before joined c rest h _ _ =>
    exact absurd (length_pos_of_lengthAt? hp h) (Nat.lt_irrefl 0)
  | case6 before joined c rest n h ih =>
    rw [Pattern.cut, h]
    exact solid_cons.mpr ⟨List.cons_ne_nil c _, ih⟩

/-- With whole words every hit has its ends at the edges of words. -/
theorem atEdges_cut (hp : p.literal ≠ []) (hw : p.options.wholeWord = true) (before : Option Char)
    (joined : Bool) (s : List Char) : AtEdges before (symbols (p.cut before joined s)) := by
  induction before, joined, s using Pattern.cut.induct p with
  | case1 before joined h => rw [cut_nil hp]; trivial
  | case2 before joined h => rw [cut_nil hp]; trivial
  | case3 before joined c rest h ih =>
    rw [Pattern.cut, h]
    exact ih
  | case4 before c rest h _ => exact absurd (length_pos_of_lengthAt? hp h) (Nat.lt_irrefl 0)
  | case5 before joined c rest h _ _ =>
    exact absurd (length_pos_of_lengthAt? hp h) (Nat.lt_irrefl 0)
  | case6 before joined c rest n h ih =>
    have hne : c :: rest.take n ≠ [] := List.cons_ne_nil c _
    have hlength : p.lengthAt? before ((c :: rest.take n) ++ rest.drop n) =
        some (c :: rest.take n).length := by
      rw [List.cons_append, List.take_append_drop, length_of_lengthAt? h]
      exact h
    obtain ⟨hstart, hstop⟩ := ((lengthAt?_append_iff before hne _).mp hlength).edges hw
    rw [Pattern.cut, h]
    refine (atEdges_hit before _ _).mpr ?_
    rw [textOf_cut, ending_of_ne_nil before hne]
    exact ⟨hstart, hstop, ih⟩

end

theorem Joins.atEdges {whole beside : Bool} {xs ys zs : List Piece} {before : Option Char}
    (h : Joins whole beside xs ys zs) (hx : AtEdges before (symbols xs))
    (hy : AtEdges before (symbols ys)) : AtEdges before (symbols zs) := by
  induction h generalizing before with
  | nil => exact hx
  | keep c _ ih => exact ih hx hy
  | left s hj ih =>
    rw [atEdges_hit, hj.textOf_eq.1] at hx
    rw [symbols_keeps, atEdges_chars] at hy
    exact (atEdges_hit before s _).mpr ⟨hx.1, hx.2.1, ih hx.2.2 hy⟩
  | right s _ hj ih =>
    rw [atEdges_hit, hj.textOf_eq.2] at hy
    rw [symbols_keeps, atEdges_chars] at hx
    exact (atEdges_hit before s _).mpr ⟨hy.1, hy.2.1, ih hx hy.2.2⟩

/-! ## One pattern after another -/

/-- A paragraph in pieces, as patterns that search for whole words or not have left it. -/
structure Drawn (whole : Bool) (text : List Char) (xs : List Piece) : Prop where
  textOf_eq : textOf xs = text
  solid : Solid xs
  edges : whole = true → AtEdges none (symbols xs)

theorem drawn_keeps (whole : Bool) (text : List Char) : Drawn whole text (text.map .keep) where
  textOf_eq := textOf_keeps text
  solid := solid_keeps text
  edges _ := by
    rw [← List.append_nil (text.map Piece.keep), symbols_keeps, atEdges_chars]
    trivial

/-- A pattern whose matches are separate from the hits so far adds its own. -/
theorem Drawn.mark {p : Pattern} {text : List Char} {xs : List Piece}
    (h : Drawn p.options.wholeWord text xs) (hp : ClearOfMarkers p.literal)
    (hs : ∀ r ∈ spansFrom List.length 0 xs, ∀ s ∈ p.spans text,
      Separate p.options.wholeWord r s) :
    ∃ zs, p.mark (markedText xs) = markedText zs ∧ Drawn p.options.wholeWord text zs ∧
      (spansFrom List.length 0 zs).Perm (spansFrom List.length 0 xs ++ p.spans text) := by
  have hsolid : Solid (p.pieces text) := solid_cut hp.ne_nil none false text
  obtain ⟨zs, hj⟩ := exists_joins false 0 h.solid hsolid
    (h.textOf_eq.trans (textOf_pieces p text).symm) hs nofun
  refine ⟨zs, ?_, ⟨hj.textOf_eq.1.symm.trans h.textOf_eq, hj.solid h.solid hsolid, fun hw => ?_⟩,
    hj.spans_perm 0⟩
  · have hcut : p.cut none false (textOf xs) = p.pieces text := by rw [h.textOf_eq]; rfl
    exact marked_joins hp hj hcut (Beside.same _ none _) h.edges
  · exact hj.atEdges (h.edges hw) (atEdges_cut hp.ne_nil hw none false text)

/-- Each pattern adds its own matches, whatever those before it have marked. -/
theorem Drawn.foldl_mark {whole : Bool} {text : List Char} {ps : List Pattern} {xs : List Piece}
    (h : Drawn whole text xs) (ho : ∀ p ∈ ps, p.options.wholeWord = whole)
    (hp : ∀ p ∈ ps, ClearOfMarkers p.literal)
    (hx : ∀ p ∈ ps, ∀ r ∈ spansFrom List.length 0 xs, ∀ s ∈ p.spans text, Separate whole r s)
    (hs : ps.Pairwise fun p q => ∀ r ∈ p.spans text, ∀ s ∈ q.spans text, Separate whole r s) :
    ∃ zs, ps.foldl (fun s p => p.mark s) (markedText xs) = markedText zs ∧ Drawn whole text zs ∧
      (spansFrom List.length 0 zs).Perm
        (spansFrom List.length 0 xs ++ ps.flatMap (·.spans text)) := by
  induction ps generalizing xs with
  | nil => exact ⟨xs, rfl, h, by rw [List.flatMap_nil, List.append_nil]⟩
  | cons p ps ih =>
    obtain ⟨ho', ho⟩ := List.forall_mem_cons.mp ho
    obtain ⟨hp', hp⟩ := List.forall_mem_cons.mp hp
    obtain ⟨hx', hx⟩ := List.forall_mem_cons.mp hx
    obtain ⟨hs', hs⟩ := List.pairwise_cons.mp hs
    subst ho'
    obtain ⟨ys, hmark, hy, hperm⟩ := h.mark hp' hx'
    have hyx : ∀ q ∈ ps, ∀ r ∈ spansFrom List.length 0 ys, ∀ s ∈ q.spans text,
        Separate p.options.wholeWord r s := by
      intro q hq r hr
      rcases List.mem_append.mp (hperm.subset hr) with hr | hr
      · exact hx q hq r hr
      · exact hs' q hq r hr
    obtain ⟨zs, hfold, hz, hperm'⟩ := ih hy ho hp hyx hs
    refine ⟨zs, ?_, hz, ?_⟩
    · rw [List.foldl_cons, hmark, hfold]
    · rw [List.flatMap_cons, ← List.append_assoc]
      exact hperm'.trans (hperm.append_right _)

/-! ## Annotated paragraphs -/

/-- Spans that are not empty and do not overlap have one order. -/
theorem eq_of_perm_ascending {rs ss : List Span} (h : rs.Perm ss)
    (hne : ∀ r ∈ rs, r.start < r.stop) (hr : rs.Pairwise fun r s => r.stop ≤ s.start)
    (hs : ss.Pairwise fun r s => r.stop ≤ s.start) : rs = ss := by
  refine h.eq_of_pairwise (fun r s hmr hms h1 h2 => ?_) hr hs
  have h3 := hne r hmr
  have h4 := hne s (h.symm.subset hms)
  omega

/-- Of the terms no two have matches in the text that are not separate. -/
def Apart (o : Options) (text : List Char) (ts : List Query.Term) : Prop :=
  ts.Pairwise fun t u => ∀ r ∈ (Pattern.ofTerm t o).spans text,
    ∀ s ∈ (Pattern.ofTerm u o).spans text, Separate o.wholeWord r s

theorem Apart.of_perm {o : Options} {text : List Char} {ts us : List Query.Term}
    (h : Apart o text ts) (hperm : us.Perm ts) : Apart o text us :=
  List.Pairwise.perm h hperm.symm fun hs r hr s hs' => separate_symm (hs s hs' r hr)

/-- All matches of the terms, each once, in the order in which they stand in the text. -/
structure Merged (o : Options) (text : List Char) (ts : List Query.Term) (rs : List Span) :
    Prop where
  perm : rs.Perm (ts.flatMap fun t => (Pattern.ofTerm t o).spans text)
  nonempty : ∀ r ∈ rs, r.start < r.stop
  ascending : rs.Pairwise fun r s => r.stop ≤ s.start

/-- The order of the terms makes no difference. -/
theorem Merged.unique {o : Options} {text : List Char} {ts us : List Query.Term} {rs ss : List Span}
    (hr : Merged o text ts rs) (hs : Merged o text us ss) (h : us.Perm ts) : rs = ss := by
  have hperm : rs.Perm ss := hr.perm.trans ((h.symm.flatMap_right _).trans hs.perm.symm)
  exact eq_of_perm_ascending hperm hr.nonempty hr.ascending hs.ascending

theorem annotate?_merged {o : Options} {q : Query.Classified} {c : Compiled} {p a : String}
    (hq : ∀ t ∈ q.must ++ q.should, ClearOfMarkers t.value.toList)
    (hs : Apart o p.toList (q.must ++ q.should)) (hc : compile o q = .ok c)
    (ha : c.annotate? p = some a) :
    ∃ rs, Merged o p.toList (q.must ++ q.should) rs ∧ a.toList = wrapped 0 rs p.toList := by
  have hnone : spansFrom List.length 0 (p.toList.map .keep) = [] := by
    rw [← List.append_nil (p.toList.map Piece.keep), spansFrom_keeps]
    rfl
  have hwhole : ∀ r ∈ (q.must ++ q.should).map (Pattern.ofTerm · o),
      r.options.wholeWord = o.wholeWord := List.forall_mem_map.mpr fun _ _ => rfl
  have hclear : ∀ r ∈ (q.must ++ q.should).map (Pattern.ofTerm · o), ClearOfMarkers r.literal :=
    List.forall_mem_map.mpr hq
  obtain ⟨zs, hfold, hz, hperm⟩ := (drawn_keeps o.wholeWord p.toList).foldl_mark hwhole hclear
    (by rw [hnone]; nofun) (List.pairwise_map.mpr hs)
  rw [hnone, List.nil_append, List.flatMap_map] at hperm
  refine ⟨spansFrom List.length 0 zs, ⟨hperm, solid_spans hz.solid, spansFrom_ascending 0 zs⟩, ?_⟩
  have hwrapped := wrapped_spansFrom 0 zs
  rw [hz.textOf_eq, ← hfold, markedText_keeps, List.foldl_map] at hwrapped
  exact (toList_of_annotate? hc ha).trans hwrapped.symm

/-- In the annotated paragraph each match of each term is marked once where it stands in the
paragraph, if the matches are separate. So neither the order of the terms nor which of them are
optional makes a difference. -/
theorem annotated_marks_separate {o : Options} {q : Query.Classified} {c : Compiled} {p a : String}
    (hq : ∀ t ∈ q.must ++ q.should, ClearOfMarkers t.value.toList)
    (hs : Apart o p.toList (q.must ++ q.should)) (hc : compile o q = .ok c)
    (ha : c.annotate? p = some a) :
    (∃ rs, Merged o p.toList (q.must ++ q.should) rs ∧ a.toList = wrapped 0 rs p.toList) ∧
      ∀ (q' : Query.Classified) (c' : Compiled) (a' : String),
        (q'.must ++ q'.should).Perm (q.must ++ q.should) → compile o q' = .ok c' →
        c'.annotate? p = some a' → a' = a := by
  obtain ⟨rs, hr, hwrapped⟩ := annotate?_merged hq hs hc ha
  refine ⟨⟨rs, hr, hwrapped⟩, fun q' c' a' hperm hc' ha' => ?_⟩
  obtain ⟨ss, hss, hwrapped'⟩ := annotate?_merged (fun t ht => hq t (hperm.subset ht))
    (hs.of_perm hperm) hc' ha'
  obtain rfl := hr.unique hss hperm
  exact String.toList_inj.mp (hwrapped'.trans hwrapped.symm)

/-- Matches of different terms may touch, and a term that overlaps itself keeps its first match. -/
theorem annotated_marks_separate_reordered :
    let q : Query.Classified :=
      { must := [⟨.plain, "oo", false⟩, ⟨.plain, "fox", true⟩], should := [⟨.plain, "obe", false⟩] }
    let q' : Query.Classified :=
      { must := [⟨.plain, "obe", false⟩], should := [⟨.plain, "fox", true⟩, ⟨.plain, "oo", false⟩] }
    let a := "<mark>oo</mark><mark>obe</mark> <mark>foxes</mark>"
    Apart {} "ooobe foxes".toList (q.must ++ q.should) ∧
      (Compiled.ofQuery {} q).annotate? "ooobe foxes" = some a ∧
      (∃ rs, Merged {} "ooobe foxes".toList (q.must ++ q.should) rs ∧
        a.toList = wrapped 0 rs "ooobe foxes".toList) ∧
      ∀ a', (Compiled.ofQuery {} q').annotate? "ooobe foxes" = some a' → a' = a := by
  intro q q' a
  have hq : ∀ t ∈ q.must ++ q.should, ClearOfMarkers t.value.toList := by
    have ho : ∀ v, ¬ FoldsInto ('o' :: v) "/mark".toList := fun v h =>
      absurd h.head (by decide +kernel)
    have hf : ∀ v, ¬ FoldsInto ('f' :: v) "/mark".toList := fun v h =>
      absurd h.head (by decide +kernel)
    exact List.forall_mem_cons.mpr ⟨⟨by decide +kernel, by decide +kernel, ho _⟩,
      List.forall_mem_cons.mpr ⟨⟨by decide +kernel, by decide +kernel, hf _⟩,
        List.forall_mem_singleton.mpr ⟨by decide +kernel, by decide +kernel, ho _⟩⟩⟩
  have hs : Apart {} "ooobe foxes".toList (q.must ++ q.should) := by
    unfold Apart
    decide +kernel
  have ha : (Compiled.ofQuery {} q).annotate? "ooobe foxes" = some a := by decide +kernel
  have hperm : (q'.must ++ q'.should).Perm (q.must ++ q.should) := by decide +kernel
  obtain ⟨hmarked, hany⟩ := annotated_marks_separate hq hs rfl ha
  exact ⟨hs, ha, hmarked, fun a' => hany q' _ a' hperm rfl⟩

end Passage.Match
