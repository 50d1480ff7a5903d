import Passage.Proofs.Match.Occurs

/-!
# What a query asks of a text

The excluded terms must not occur, the required ones must, and there must be
something to look for. A query that compiles accepts exactly the texts of which
this is true; the optional terms are not asked for.
-/

namespace Passage

namespace Query.Classified

/-- All terms, in the order in which they are compiled. -/
def terms (q : Classified) : List Term := q.must ++ q.should ++ q.not

theorem mem_terms (q : Classified) (t : Term) :
    t ∈ q.terms ↔ t ∈ q.must ∨ t ∈ q.should ∨ t ∈ q.not := by
  simp [terms]

end Query.Classified

namespace Match

/-- A text that has what the query asks for. -/
structure Satisfies (o : Options) (q : Query.Classified) (text : List Char) : Prop where
  excluded : ∀ t ∈ q.not, ¬ Occurs t o text
  required : ∀ t ∈ q.must, Occurs t o text
  asked : q.must ≠ [] ∨ q.should ≠ []

def Compiles (o : Options) (t : Query.Term) : Prop := ∃ p, compileTerm o t = .ok p

/-- The patterns of a query's terms. -/
def Compiled.ofQuery (o : Options) (q : Query.Classified) : Compiled where
  must := q.must.map (Pattern.ofTerm · o)
  should := q.should.map (Pattern.ofTerm · o)
  not := q.not.map (Pattern.ofTerm · o)

theorem compileTerm_eq_ok {o : Options} {t : Query.Term} {p : Pattern}
    (h : compileTerm o t = .ok p) : p = Pattern.ofTerm t o := by
  unfold compileTerm at h
  simp only at h
  split at h
  · exact (Except.ok.inj h).symm
  · cases h

theorem mapM_compileTerm (o : Options) (ts : List Query.Term) (ps : List Pattern) :
    ts.mapM (compileTerm o) = .ok ps ↔
      (∀ t ∈ ts, Compiles o t) ∧ ps = ts.map (Pattern.ofTerm · o) := by
  induction ts generalizing ps with
  | nil => simp [pure, Except.pure, eq_comm]
  | cons t ts ih =>
    rw [List.mapM_cons]
    cases ht : compileTerm o t with
    | error e => simp [bind, Except.bind, Compiles, ht]
    | ok p =>
      obtain rfl := compileTerm_eq_ok ht
      cases hts : ts.mapM (compileTerm o) with
      | error e =>
        have hno : ¬ ∀ t ∈ ts, Compiles o t := by
          intro h
          have := (ih (ts.map (Pattern.ofTerm · o))).mpr ⟨h, rfl⟩
          rw [hts] at this
          cases this
        simp only [bind, Except.bind, reduceCtorEq, List.mem_cons, forall_eq_or_imp, false_iff]
        exact fun h => hno h.1.2
      | ok qs =>
        obtain ⟨hall, rfl⟩ := (ih qs).mp hts
        simp only [bind, Except.bind, pure, Except.pure, Except.ok.injEq, List.mem_cons,
          forall_eq_or_imp, List.map_cons]
        exact ⟨fun h => ⟨⟨⟨_, ht⟩, hall⟩, h.symm⟩, fun h => h.2.symm⟩

/-- A query compiles exactly if all its terms do, and then to their patterns. -/
theorem compile_eq_ok_iff (o : Options) (q : Query.Classified) (c : Compiled) :
    compile o q = .ok c ↔ (∀ t ∈ q.terms, Compiles o t) ∧ c = Compiled.ofQuery o q := by
  have hterms : (∀ t ∈ q.terms, Compiles o t) ↔ (∀ t ∈ q.must, Compiles o t) ∧
      (∀ t ∈ q.should, Compiles o t) ∧ ∀ t ∈ q.not, Compiles o t := by
    simp only [q.mem_terms, or_imp, forall_and]
  rw [hterms]
  constructor
  · intro h
    unfold compile at h
    cases hm : q.must.mapM (compileTerm o) with
    | error e => simp [hm, bind, Except.bind] at h
    | ok must =>
      cases hs : q.should.mapM (compileTerm o) with
      | error e => simp [hm, hs, bind, Except.bind] at h
      | ok should =>
        cases hn : q.not.mapM (compileTerm o) with
        | error e => simp [hm, hs, hn, bind, Except.bind] at h
        | ok not =>
          obtain ⟨hm', rfl⟩ := (mapM_compileTerm o _ _).mp hm
          obtain ⟨hs', rfl⟩ := (mapM_compileTerm o _ _).mp hs
          obtain ⟨hn', rfl⟩ := (mapM_compileTerm o _ _).mp hn
          simp only [hm, hs, hn, bind, Except.bind, pure, Except.pure, Except.ok.injEq] at h
          exact ⟨⟨hm', hs', hn'⟩, h.symm⟩
  · intro h
    obtain ⟨⟨hm, hs, hn⟩, rfl⟩ := h
    rw [compile, (mapM_compileTerm o q.must _).mpr ⟨hm, rfl⟩,
      (mapM_compileTerm o q.should _).mpr ⟨hs, rfl⟩, (mapM_compileTerm o q.not _).mpr ⟨hn, rfl⟩]
    rfl

namespace Compiled

theorem accepts_iff (o : Options) (q : Query.Classified) (text : List Char) :
    (ofQuery o q).accepts text ↔ Satisfies o q text := by
  have hnot : (ofQuery o q).not.any (·.occursIn text) = true ↔ ∃ t ∈ q.not, Occurs t o text := by
    simp [ofQuery, occursIn_iff]
  have hmust : (ofQuery o q).must.all (·.occursIn text) = true ↔ ∀ t ∈ q.must, Occurs t o text := by
    simp [ofQuery, occursIn_iff]
  have hasked : ((ofQuery o q).must.isEmpty && (ofQuery o q).should.isEmpty) = true ↔
      q.must = [] ∧ q.should = [] := by
    simp [ofQuery]
  rw [accepts, Bool.and_eq_true, Bool.and_eq_true, Bool.not_eq_true', Bool.not_eq_true',
    ← Bool.not_eq_true, ← Bool.not_eq_true, hnot, hmust, hasked]
  constructor
  · intro h
    obtain ⟨⟨hn, hm⟩, ha⟩ := h
    exact ⟨fun t ht ho => hn ⟨t, ht, ho⟩, hm, Classical.not_and_iff_not_or_not.mp ha⟩
  · intro h
    obtain ⟨hn, hm, ha⟩ := h
    exact ⟨⟨fun ⟨t, ht, ho⟩ => hn t ht ho, hm⟩, Classical.not_and_iff_not_or_not.mpr ha⟩

theorem annotate?_isSome (c : Compiled) (p : String) :
    (c.annotate? p).isSome = c.accepts p.toList := by
  rw [annotate?]
  split <;> simp_all

end Compiled

/-- The text in which the terms are marked one after another. -/
def markAll (o : Options) (terms : List Query.Term) (text : List Char) : List Char :=
  terms.foldl (fun s t => (Pattern.ofTerm t o).mark s) text

theorem markAll_append (o : Options) (ts us : List Query.Term) (text : List Char) :
    markAll o (ts ++ us) text = markAll o us (markAll o ts text) :=
  List.foldl_append

/-- What is shown of a paragraph has the required terms marked, and then the optional ones. -/
theorem toList_of_annotate? {o : Options} {q : Query.Classified} {c : Compiled} {p a : String}
    (hc : compile o q = .ok c) (ha : c.annotate? p = some a) :
    a.toList = markAll o (q.must ++ q.should) p.toList := by
  obtain ⟨_, rfl⟩ := (compile_eq_ok_iff o q c).mp hc
  unfold Compiled.annotate? at ha
  split at ha
  · obtain rfl := Option.some.inj ha
    rw [String.toList_ofList, markAll, Compiled.ofQuery, ← List.map_append, List.foldl_map]
  · cases ha

end Match

end Passage
