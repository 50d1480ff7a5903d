import Passage.Proofs.Query.Segmentation
import Passage.Proofs.Query.Sorting
import Passage.Proofs.Search.Meaning
import Passage.Proofs.Text.Trim

/-!
# Excluding one more term

A word behind ` -` at the end of a query takes findings away and does nothing else. The
query in front of it is cut into the same tokens, an open quote and an `OR` that waits for
its term included, and what is shown of a paragraph has no excluded term marked in it.
-/

namespace Passage

open Text

/-! ## Tokens in front of white space -/

namespace Query.Token

variable {tail : List Char}

theorem word_append (hb : ∀ c ∈ tail.head?, isBlank c) (s : List Char) :
    (s ++ tail).takeWhile (!isBlank ·) = s.takeWhile (!isBlank ·) ∧
      (s ++ tail).dropWhile (!isBlank ·) = s.dropWhile (!isBlank ·) ++ tail := by
  induction s with
  | nil =>
    cases tail with
    | nil => exact ⟨rfl, rfl⟩
    | cons c tail => simp [hb c rfl]
  | cons c s ih => by_cases hc : isBlank c <;> simp [hc, ih]

/-- No phrase begins in front of a text without quotes that did not begin before. -/
theorem phrase?_append_eq_none (hq : '"' ∉ tail) {c : Char} {s : List Char}
    (h : phrase? (c :: s) = none) : phrase? (c :: (s ++ tail)) = none := by
  rw [phrase?_eq_none_iff] at h ⊢
  intro hc
  rcases h hc with hnext | hopen
  · left
    rw [List.getElem?_cons_succ] at hnext ⊢
    rw [List.getElem?_append_left (List.getElem?_eq_some_iff.mp hnext).1, hnext]
  · right
    rw [List.tail_cons, List.mem_append, not_or]
    exact ⟨hopen, hq⟩

/-- Without quotes and behind white space, nothing changes the tokens in front of it. -/
theorem scan_append (hq : '"' ∉ tail) (hb : ∀ c ∈ tail.head?, isBlank c) (s : List Char) :
    scan (s ++ tail) = scan s ++ scan tail := by
  induction s using scan.induct with
  | case1 => rw [scan_nil, List.nil_append, List.nil_append]
  | case2 c rest hc ih => rw [List.cons_append, scan_blank hc, scan_blank hc, ih]
  | case3 c rest hc inner after h ih =>
    obtain ⟨hs, hne, hin⟩ := phrase?_eq_some_iff.mp h
    have h' : phrase? (c :: (rest ++ tail)) = some (inner, after ++ tail) := by
      rw [← List.cons_append, hs, List.cons_append, List.append_assoc, List.cons_append]
      exact phrase?_quoted hne hin _
    rw [List.cons_append, scan_of_phrase hc h', scan_of_phrase hc h, ih, List.cons_append]
  | case4 c rest hc h ih =>
    obtain ⟨htake, hdrop⟩ := word_append hb rest
    rw [List.cons_append, scan_of_no_phrase hc (phrase?_append_eq_none hq h),
      scan_of_no_phrase hc h, htake, hdrop, ih, List.cons_append]

theorem scan_blanks_append {gap : List Char} (h : ∀ c ∈ gap, isBlank c) (s : List Char) :
    scan (gap ++ s) = scan s := by
  induction gap with
  | nil => rfl
  | cons c gap ih =>
    obtain ⟨hc, hgap⟩ := List.forall_mem_cons.mp h
    rw [List.cons_append, scan_blank hc, ih hgap]

theorem scan_trim (s : List Char) : scan (trim s) = scan s := by
  obtain ⟨front, back, hs, hfront, hback⟩ := exists_around_trim s
  have hquote : '"' ∉ back := fun h => by cases hback _ h
  have hend : scan back = [] := by
    rw [← List.append_nil back, scan_blanks_append hback, scan_nil]
  rw [congrArg scan hs, scan_blanks_append hfront,
    scan_append hquote (fun c hc => hback c (List.mem_of_mem_head? hc)), hend, List.append_nil]

/-! ## A word behind a minus sign -/

/-- A token gives no more than one term. -/
theorem Gives.eq_ofText {t : Token} {term : Term} (h : t.Gives term) :
    term = Term.ofText t.kind t.body := by
  obtain ⟨kind, value, wildcard⟩ := term
  obtain ⟨rfl, htext, hwild⟩ := h
  have hbody : t.body = value.toList ++ if wildcard then ['*'] else [] :=
    List.append_cancel_left (t.sign_append_body.trans htext)
  rw [Term.ofText]
  cases wildcard with
  | false =>
    rw [if_neg (by simpa using hwild), hbody]
    simp
  | true =>
    rw [if_pos (hwild.mp rfl), hbody]
    simp

def minus (w : String) : Token := ⟨.plain, "-" ++ w⟩

theorem toList_minus (w : String) : (minus w).value.toList = '-' :: w.toList := by
  rw [minus, String.toList_append]
  rfl

theorem isNegated_minus (w : String) : (minus w).IsNegated := by
  refine ⟨rfl, fun h => ?_, by rw [toList_minus]; rfl⟩
  have hlist : '-' :: w.toList ∈ ["or", "oR", "Or", "OR"].map String.toList := by
    rw [← toList_minus]
    exact List.mem_map_of_mem h.2
  simp at hlist

theorem body_minus (w : String) : (minus w).body = w.toList := by
  rw [body, if_pos (isNegated_minus w), toList_minus, List.tail_cons]

theorem ofQuery_append_minus {w : String} (hb : ∀ c ∈ w.toList, isBlank c = false)
    (hq : '"' ∉ w.toList) (q : String) : ofQuery (q ++ " -" ++ w) = ofQuery q ++ [minus w] := by
  have htext : (q ++ " -" ++ w).toList = q.toList ++ ' ' :: '-' :: w.toList := by
    rw [String.toList_append, String.toList_append, List.append_assoc]
    rfl
  have hword := reads_word (List.cons_ne_nil '-' w.toList)
    (List.forall_mem_cons.mpr ⟨by decide, hb⟩) (by simp) [] nofun
  rw [List.append_nil, scan_nil, List.append_nil, ← toList_minus, String.ofList_toList] at hword
  rw [ofQuery, htext, scan_append (by simpa using hq) (by simp; decide), scan_blank (by decide),
    ← toList_minus, hword]
  rfl

end Query.Token

/-! ## One more excluded term -/

namespace Query

def Classified.excluding (q : Classified) (t : Term) : Classified := { q with not := q.not ++ [t] }

theorem Classified.terms_excluding (q : Classified) (t : Term) :
    (q.excluding t).terms = q.terms ++ [t] := by
  simp [excluding, terms]

/-- A negated token at the end is excluded, also where an operator waits for a term. -/
theorem classifyFrom_append_negated {t : Token} (h : t.IsNegated) (pending : Bool)
    (ts : List Token) :
    classifyFrom pending (ts ++ [t]) =
      (classifyFrom pending ts).excluding (Term.ofText t.kind t.body) := by
  have hop (u : Token) (hu : ¬ u.IsOperator) : u.isOr = false := by
    rwa [← Token.isOr_iff, Bool.not_eq_true] at hu
  induction ts generalizing pending with
  | nil =>
    rw [List.nil_append, classifyFrom_negated (hop t h.2.1) (Token.negated?_of_isNegated h)]
    rfl
  | cons u ts ih =>
    rw [List.cons_append]
    by_cases hu : u.isOr
    · rw [classifyFrom_or hu, classifyFrom_or hu, ih]
    rw [Bool.not_eq_true] at hu
    cases hn : u.negated? with
    | some word =>
      rw [classifyFrom_negated hu hn, classifyFrom_negated hu hn, ih]
      rfl
    | none =>
      rw [classifyFrom_sought hu hn, classifyFrom_sought hu hn, ih]
      cases pending <;> rfl

end Query

/-! ## Findings without the excluded term -/

namespace Match

instance (t : Query.Term) (o : Options) (text : List Char) : Decidable (Occurs t o text) :=
  decidable_of_iff _ (occursIn_iff t o text)

variable (o : Options) (q : Query.Classified) (t : Query.Term)

theorem satisfies_excluding (text : List Char) :
    Satisfies o (q.excluding t) text ↔ ¬ Occurs t o text ∧ Satisfies o q text := by
  have hnot : (∀ u ∈ (q.excluding t).not, ¬ Occurs u o text) ↔
      (∀ u ∈ q.not, ¬ Occurs u o text) ∧ ¬ Occurs t o text := by
    simp [Query.Classified.excluding, or_imp, forall_and]
  constructor
  · rintro ⟨he, hr, ha⟩
    obtain ⟨he, ht⟩ := hnot.mp he
    exact ⟨ht, he, hr, ha⟩
  · rintro ⟨ht, he, hr, ha⟩
    exact ⟨hnot.mpr ⟨he, ht⟩, hr, ha⟩

/-- What is shown of a paragraph does not depend on the excluded terms. -/
theorem annotate?_excluding (p : String) :
    (Compiled.ofQuery o (q.excluding t)).annotate? p =
      if Occurs t o p.toList then none else (Compiled.ofQuery o q).annotate? p := by
  have ha : (Compiled.ofQuery o (q.excluding t)).accepts p.toList ↔
      ¬ Occurs t o p.toList ∧ (Compiled.ofQuery o q).accepts p.toList := by
    rw [Compiled.accepts_iff, Compiled.accepts_iff, satisfies_excluding]
  by_cases ht : Occurs t o p.toList
  · rw [if_pos ht, Compiled.annotate?, if_neg fun h => (ha.mp h).1 ht]
  · rw [if_neg ht, Compiled.annotate?, Compiled.annotate?]
    by_cases hq : (Compiled.ofQuery o q).accepts p.toList
    · rw [if_pos (ha.mpr ⟨ht, hq⟩), if_pos hq]
      rfl
    · rw [if_neg fun h => hq (ha.mp h).2, if_neg hq]

end Match

namespace Search

open Match (Options Compiled Compiles Occurs)

theorem collectFrom_excluding (o : Options) (q : Query.Classified) (t : Query.Term) (i : Nat)
    (ps : List String) :
    collectFrom (Compiled.ofQuery o (q.excluding t)) i ps =
      (collectFrom (Compiled.ofQuery o q) i ps).filter (¬ Occurs t o ·.raw.toList) := by
  induction ps generalizing i with
  | nil => rfl
  | cons p ps ih =>
    rw [collectFrom, collectFrom, Match.annotate?_excluding]
    cases ha : (Compiled.ofQuery o q).annotate? p with
    | none =>
      rw [ite_self]
      exact ih (i + 1)
    | some a =>
      by_cases ht : Occurs t o p.toList
      · rw [if_pos ht, List.filter_cons_of_neg (by simpa using ht)]
        exact ih (i + 1)
      · rw [if_neg ht, List.filter_cons_of_pos (by simpa using ht)]
        exact congrArg _ (ih (i + 1))

theorem understood_eq (query : String) :
    understood query = Query.classify (Query.Token.ofQuery query) := by
  rw [understood, Query.parse, Query.Token.ofQuery, trimmed, String.toList_ofList,
    Query.Token.scan_trim]
  rfl

theorem understood_append_minus {w : String} (hb : ∀ c ∈ w.toList, isBlank c = false)
    (hq : '"' ∉ w.toList) (q : String) :
    understood (q ++ " -" ++ w) =
      (understood q).excluding (Query.Term.ofText .plain w.toList) := by
  rw [understood_eq, understood_eq, Query.Token.ofQuery_append_minus hb hq, Query.classify,
    Query.classifyFrom_append_negated (Query.Token.isNegated_minus w), Query.Token.body_minus]
  rfl

/-- A word without white space and quotes, put behind a minus sign at the end of a query, takes
away the findings in which its term occurs. The others keep their places and what is shown. -/
theorem search_excluding_filters (o : Options) (ps : List String) (q w : String) (hp : ps ≠ [])
    (hq : trim q.toList ≠ []) (hb : ∀ c ∈ w.toList, isBlank c = false) (hw : '"' ∉ w.toList)
    (hc : ∀ t ∈ (understood (q ++ " -" ++ w)).terms, Compiles o t) :
    ∃ found t, (Query.Token.minus w).Gives t ∧ search o ps q = .ok found ∧
      search o ps (q ++ " -" ++ w) = .ok (found.filter (¬ Occurs t o ·.raw.toList)) := by
  have hu := understood_append_minus hb hw q
  have hcq : ∀ t ∈ (understood q).terms, Compiles o t := by
    intro t ht
    apply hc
    rw [hu, Query.Classified.terms_excluding]
    exact List.mem_append_left _ ht
  have hq' : trim (q ++ " -" ++ w).toList ≠ [] := by
    refine trim_ne_nil (c := '-') ?_ (by decide)
    simp
  have hgives := (Query.Token.minus w).gives_ofText
  rw [Query.Token.body_minus] at hgives
  refine ⟨_, _, hgives, search_eq_ok hp hq hcq, ?_⟩
  rw [search_eq_ok hp hq' hc, hu, collectFrom_excluding]
  rfl

/-- The query opens a quote that it does not close, and ends in an operator. -/
theorem search_excluding_filters_open :
    let ps := ["a \"fox", "the \"fox slowed", "slow"]
    (∀ t ∈ (understood ("\"fox OR" ++ " -" ++ "slow*")).terms, Compiles {} t) ∧
    search {} ps ("\"fox OR" ++ " -" ++ "slow*") =
      .ok [⟨0, "a <mark>\"fox</mark>", "a \"fox"⟩] := by
  intro ps
  have hu : understood ("\"fox OR" ++ " -" ++ "slow*") =
      ⟨[⟨.plain, "\"fox", false⟩], [], [⟨.plain, "slow", true⟩]⟩ := by decide +kernel
  have hc : ∀ t ∈ (understood ("\"fox OR" ++ " -" ++ "slow*")).terms, Compiles {} t := by
    rw [hu]
    intro t ht
    simp only [Query.Classified.terms, List.nil_append, List.cons_append, List.mem_cons,
      List.not_mem_nil, or_false] at ht
    rcases ht with rfl | rfl <;> exact ⟨_, rfl⟩
  obtain ⟨found, t, ht, hfound, hkept⟩ := search_excluding_filters {} ps "\"fox OR" "slow*"
    (by decide) (by decide +kernel) (by decide +kernel) (by decide +kernel) hc
  have hall : search {} ps "\"fox OR" = .ok [⟨0, "a <mark>\"fox</mark>", "a \"fox"⟩,
      ⟨1, "the <mark>\"fox</mark> slowed", "the \"fox slowed"⟩] := by
    decide +kernel
  rw [hall] at hfound
  obtain rfl := Except.ok.inj hfound
  refine ⟨hc, hkept.trans (congrArg _ ?_)⟩
  rw [ht.eq_ofText]
  decide +kernel

end Search

end Passage
