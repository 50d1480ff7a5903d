import Passage.Proofs.Query.Alike
import Passage.Proofs.Search.Agreement
import Passage.Proofs.Search.Exclusion

/-!
# Searching without regard to case

Where case is ignored, a literal is met through the folding classes of its characters
only. So two queries that differ in case only have patterns that match the same
stretches of every text, and a search gives the same for both, failures included.
-/

namespace Passage

open Text

namespace Match

/-- Patterns that ignore case, with literals that differ in case only. -/
structure Pattern.Alike (p q : Pattern) : Prop where
  insensitive : p.options.caseSensitive = false
  options : p.options = q.options
  openEnded : p.openEnded = q.openEnded
  literal : CaseFold.Alike p.literal q.literal

theorem alike_ofTerm {o : Options} (ho : o.caseSensitive = false) {t u : Query.Term}
    (h : t.Alike u) : (Pattern.ofTerm t o).Alike (Pattern.ofTerm u o) where
  insensitive := ho
  options := rfl
  openEnded := by rw [Pattern.ofTerm, Pattern.ofTerm, h.kind, h.wildcard]
  literal := h.value

namespace Pattern.Alike

variable {p q : Pattern}

theorem literalAt_eq (h : p.Alike q) {l m : List Char} (hl : CaseFold.Alike l m)
    (s : List Char) : p.literalAt l s = q.literalAt m s := by
  have hq : q.options.caseSensitive = false := h.options ▸ h.insensitive
  induction hl generalizing s with
  | nil => rw [Pattern.literalAt, Pattern.literalAt]
  | @cons a b _ _ hab _ ih =>
    cases s with
    | nil => rfl
    | cons c s =>
      have hc : p.agrees a c = q.agrees b c := by
        simp only [Pattern.agrees, h.insensitive, hq, CaseFold.same, CaseFold.same_iff.mp hab,
          Bool.false_eq_true, ↓reduceIte]
      rw [Pattern.literalAt, Pattern.literalAt, hc, ih]

theorem lengthAt?_eq (h : p.Alike q) (before : Option Char) (s : List Char) :
    p.lengthAt? before s = q.lengthAt? before s := by
  rw [Pattern.lengthAt?, Pattern.lengthAt?, h.literalAt_eq h.literal, h.literal.length_eq,
    h.openEnded, h.options]

theorem cut_eq (h : p.Alike q) (before : Option Char) (joined : Bool) (s : List Char) :
    p.cut before joined s = q.cut before joined s := by
  induction before, joined, s using Pattern.cut.induct p with
  | case1 before joined hc => rw [Pattern.cut, Pattern.cut, h.lengthAt?_eq]
  | case2 before joined hc => rw [Pattern.cut, Pattern.cut, h.lengthAt?_eq]
  | case3 before joined c rest hn ih =>
    rw [Pattern.cut, Pattern.cut, ← h.lengthAt?_eq, hn]
    exact congrArg (Piece.keep c :: ·) ih
  | case4 before c rest hz ih =>
    rw [Pattern.cut, Pattern.cut, ← h.lengthAt?_eq, hz]
    exact congrArg (Piece.keep c :: ·) ih
  | case5 before joined c rest hz hj ih =>
    rw [Pattern.cut, Pattern.cut, ← h.lengthAt?_eq, hz]
    simp only [hj, ih]
  | case6 before joined c rest n hs ih =>
    rw [Pattern.cut, Pattern.cut, ← h.lengthAt?_eq, hs]
    exact congrArg (Piece.hit (c :: rest.take n) :: ·) ih

theorem occursIn_eq (h : p.Alike q) (text : List Char) : p.occursIn text = q.occursIn text := by
  rw [Pattern.occursIn, Pattern.occursIn, Pattern.pieces, Pattern.pieces, h.cut_eq]

theorem mark_eq (h : p.Alike q) (text : List Char) : p.mark text = q.mark text := by
  rw [Pattern.mark, Pattern.mark, Pattern.pieces, Pattern.pieces, h.cut_eq]

/-- Characters of one class take the same space. -/
theorem compiledBytes_eq (h : p.Alike q) : p.compiledBytes = q.compiledBytes := by
  have hq : q.options.caseSensitive = false := h.options ▸ h.insensitive
  have hvariants : ∀ a b, CaseFold.same a b → CaseFold.variants a = CaseFold.variants b := by
    intro a b hab
    rw [CaseFold.variants, CaseFold.variants, CaseFold.same_iff.mp hab]
  have hl := h.literal
  simp only [Pattern.compiledBytes, h.insensitive, hq, Bool.false_eq_true, ↓reduceIte]
  generalize p.literal = l, q.literal = m at hl
  induction hl with
  | nil => rfl
  | @cons a b _ _ hab _ ih => rw [List.foldr_cons, List.foldr_cons, hvariants a b hab, ih]

end Pattern.Alike

theorem compiles_iff_of_alike {o : Options} (ho : o.caseSensitive = false) {t u : Query.Term}
    (h : t.Alike u) : Compiles o t ↔ Compiles o u := by
  rw [compiles_iff, compiles_iff, Pattern.fits, Pattern.fits, (alike_ofTerm ho h).compiledBytes_eq]

variable {o : Options} {ts us : List Query.Term}

/-- What alike patterns agree on is the same for the terms of both queries. -/
theorem map_ofTerm_eq {β : Type} (ho : o.caseSensitive = false) {f : Pattern → β}
    (hf : ∀ p q : Pattern, p.Alike q → f p = f q) (h : List.Forall₂ Query.Term.Alike ts us) :
    (ts.map (Pattern.ofTerm · o)).map f = (us.map (Pattern.ofTerm · o)).map f := by
  induction h with
  | nil => rfl
  | cons htu _ ih =>
    simp only [List.map_cons]
    rw [hf _ _ (alike_ofTerm ho htu), ih]

theorem any_occursIn_eq (ho : o.caseSensitive = false) (h : List.Forall₂ Query.Term.Alike ts us)
    (text : List Char) : (ts.map (Pattern.ofTerm · o)).any (·.occursIn text) =
      (us.map (Pattern.ofTerm · o)).any (·.occursIn text) := by
  have hmap := map_ofTerm_eq ho (f := (·.occursIn text)) (fun p q hpq => hpq.occursIn_eq text) h
  simpa only [List.any_map, Function.id_comp] using congrArg (List.any · id) hmap

theorem all_occursIn_eq (ho : o.caseSensitive = false) (h : List.Forall₂ Query.Term.Alike ts us)
    (text : List Char) : (ts.map (Pattern.ofTerm · o)).all (·.occursIn text) =
      (us.map (Pattern.ofTerm · o)).all (·.occursIn text) := by
  have hmap := map_ofTerm_eq ho (f := (·.occursIn text)) (fun p q hpq => hpq.occursIn_eq text) h
  simpa only [List.all_map, Function.id_comp] using congrArg (List.all · id) hmap

theorem foldl_mark_eq (ho : o.caseSensitive = false) (h : List.Forall₂ Query.Term.Alike ts us)
    (text : List Char) : (ts.map (Pattern.ofTerm · o)).foldl (fun s p => p.mark s) text =
      (us.map (Pattern.ofTerm · o)).foldl (fun s p => p.mark s) text := by
  have hmap := map_ofTerm_eq ho (f := Pattern.mark) (fun p q hpq => funext hpq.mark_eq) h
  simpa only [List.foldl_map] using congrArg (List.foldl (fun s f => f s) text) hmap

theorem isEmpty_map_ofTerm_eq (h : List.Forall₂ Query.Term.Alike ts us) :
    (ts.map (Pattern.ofTerm · o)).isEmpty = (us.map (Pattern.ofTerm · o)).isEmpty := by
  cases h <;> rfl

/-- Of no paragraph do the two queries show anything different. -/
theorem annotate?_eq_of_alike (ho : o.caseSensitive = false) {q r : Query.Classified}
    (h : q.Alike r) (p : String) :
    (Compiled.ofQuery o q).annotate? p = (Compiled.ofQuery o r).annotate? p := by
  have haccepts : (Compiled.ofQuery o q).accepts p.toList =
      (Compiled.ofQuery o r).accepts p.toList := by
    simp only [Compiled.accepts, Compiled.ofQuery, any_occursIn_eq ho h.not,
      all_occursIn_eq ho h.must, isEmpty_map_ofTerm_eq h.must, isEmpty_map_ofTerm_eq h.should]
  rw [Compiled.annotate?, Compiled.annotate?, haccepts]
  simp only [Compiled.ofQuery, List.foldl_append, foldl_mark_eq ho h.must,
    foldl_mark_eq ho h.should]

theorem all_compile_iff_of_alike (ho : o.caseSensitive = false) {q r : Query.Classified}
    (h : q.Alike r) : (∀ t ∈ q.terms, Compiles o t) ↔ ∀ t ∈ r.terms, Compiles o t := by
  have hterms : List.Forall₂ Query.Term.Alike q.terms r.terms :=
    List.rel_append (List.rel_append h.must h.should) h.not
  generalize q.terms = ts, r.terms = us at hterms
  induction hterms with
  | nil => exact ⟨nofun, nofun⟩
  | cons htu _ ih =>
    rw [List.forall_mem_cons, List.forall_mem_cons]
    exact and_congr (compiles_iff_of_alike ho htu) ih

end Match

namespace Search

open Match (Options Compiled Compiles)

theorem collectFrom_congr {c d : Compiled} (h : ∀ p, c.annotate? p = d.annotate? p) (i : Nat)
    (ps : List String) : collectFrom c i ps = collectFrom d i ps := by
  induction ps generalizing i with
  | nil => rfl
  | cons p ps ih => rw [collectFrom, collectFrom, h p, ih]

theorem alike_understood {q r : String} (h : CaseFold.Alike q.toList r.toList) :
    (understood q).Alike (understood r) := by
  rw [understood_eq, understood_eq]
  exact Query.alike_classifyFrom false (Query.Token.alike_scan h)

/-- With case ignored, two queries whose characters at each place are equal or differ in case only
both compile or both do not, and if they do a search has the same outcome for both. -/
theorem search_ignores_case (o : Options) (ho : o.caseSensitive = false) (ps : List String)
    (q r : String) (h : CaseFold.Alike q.toList r.toList) :
    ((∀ t ∈ (understood q).terms, Compiles o t) ↔ ∀ t ∈ (understood r).terms, Compiles o t) ∧
      ((∀ t ∈ (understood q).terms, Compiles o t) → search o ps q = search o ps r) := by
  have hu := alike_understood h
  have hiff := Match.all_compile_iff_of_alike ho hu
  refine ⟨hiff, fun hc => ?_⟩
  have hblank := CaseFold.eq_nil_iff_of_alike (CaseFold.alike_trim h)
  by_cases hp : ps = []
  · rw [(guarded_search o ps q).emptyDocument.mpr hp, (guarded_search o ps r).emptyDocument.mpr hp]
  by_cases hq : trim q.toList = []
  · rw [(guarded_search o ps q).emptyQuery.mpr ⟨hp, hq⟩,
      (guarded_search o ps r).emptyQuery.mpr ⟨hp, hblank.mp hq⟩]
  rw [search_eq_ok hp hq hc, search_eq_ok hp (mt hblank.mpr hq) (hiff.mp hc)]
  exact congrArg _ (collectFrom_congr (Match.annotate?_eq_of_alike ho hu) 0 ps)

/-- The Kelvin sign for `k`, the long `s`, a final sigma, and another spelling of the operator. -/
theorem search_ignores_case_kelvin :
    let ps := ["His Kelvin is on Σ", "Kelvin Σ xyz"]
    let q := "kelvin or \"s o\" σ -Xy*"
    let r := "\u212AELVIN oR \"\u017F O\" ς -xY*"
    CaseFold.Alike q.toList r.toList ∧ (∀ t ∈ (understood q).terms, Compiles {} t) ∧
      (∀ t ∈ (understood r).terms, Compiles {} t) ∧
      search {} ps r = .ok [⟨0, "His <mark>Kelvin</mark> i<mark>s o</mark>n <mark>Σ</mark>",
        "His Kelvin is on Σ"⟩] := by
  intro ps q r
  have ha : CaseFold.Alike q.toList r.toList := by decide +kernel
  have hu : understood q = ⟨[⟨.plain, "kelvin", false⟩, ⟨.plain, "σ", false⟩],
      [⟨.phrase, "s o", false⟩], [⟨.plain, "Xy", true⟩]⟩ := by decide +kernel
  have hc : ∀ t ∈ (understood q).terms, Compiles {} t := by
    rw [hu]
    intro t ht
    simp only [Query.Classified.terms, List.nil_append, List.cons_append, List.mem_cons,
      List.not_mem_nil, or_false] at ht
    rcases ht with rfl | rfl | rfl | rfl <;> exact ⟨_, rfl⟩
  obtain ⟨hiff, heq⟩ := search_ignores_case {} rfl ps q r ha
  refine ⟨ha, hc, hiff.mp hc, ?_⟩
  rw [← heq hc]
  decide +kernel

end Search

end Passage
