import Passage.Proofs.Query.RoundTrip
import Passage.Proofs.Search.Meaning
import Passage.Proofs.Text.Trim

/-!
# The ways of searching agree

A search, a limited search and the matching of single paragraphs share their guards and
their answers. They differ at two places: a limited search refuses a long query, and a
search does not compile a query that only excludes, so it cannot fail there as matching
does.
-/

namespace Passage

theorem ok_bind {α β : Type} (a : α) (next : α → Except Error β) : (.ok a >>= next) = next a :=
  rfl

theorem error_bind {α β : Type} (e : Error) (next : α → Except Error β) :
    (.error e >>= next) = .error e :=
  rfl

theorem error_of_bind {α β : Type} {x : Except Error α} {next : α → Except Error β} {e : Error}
    (h : x >>= next = .error e) : x = .error e ∨ ∃ a, x = .ok a ∧ next a = .error e := by
  cases x with
  | error e' => exact Or.inl (congrArg Except.error (Except.error.inj h))
  | ok a => exact Or.inr ⟨a, rfl, h⟩

namespace Match

/-! ## Failures of compilation -/

theorem compiles_iff (o : Options) (t : Query.Term) : Compiles o t ↔ (Pattern.ofTerm t o).fits := by
  unfold Compiles compileTerm
  simp only
  split
  · next h => exact ⟨fun _ => h, fun _ => ⟨_, rfl⟩⟩
  · next h =>
    refine ⟨fun hc => ?_, fun hf => absurd hf h⟩
    obtain ⟨p, hp⟩ := hc
    cases hp

theorem compileTerm_error {o : Options} {t : Query.Term} {e : Error}
    (h : compileTerm o t = .error e) : ∃ reason, e = .invalidQuery reason := by
  unfold compileTerm at h
  simp only at h
  split at h
  · cases h
  · exact ⟨_, (Except.error.inj h).symm⟩

theorem mapM_compileTerm_error {o : Options} {ts : List Query.Term} {e : Error}
    (h : ts.mapM (compileTerm o) = .error e) : ∃ reason, e = .invalidQuery reason := by
  induction ts with
  | nil => cases h
  | cons t ts ih =>
    rw [List.mapM_cons] at h
    rcases error_of_bind h with ht | ⟨p, _, h⟩
    · exact compileTerm_error ht
    · rcases error_of_bind h with hts | ⟨ps, _, h⟩
      · exact ih hts
      · cases h

theorem compile_error {o : Options} {q : Query.Classified} {e : Error}
    (h : compile o q = .error e) : ∃ reason, e = .invalidQuery reason := by
  rcases error_of_bind h with hm | ⟨must, _, h⟩
  · exact mapM_compileTerm_error hm
  rcases error_of_bind h with hs | ⟨should, _, h⟩
  · exact mapM_compileTerm_error hs
  rcases error_of_bind h with hn | ⟨not, _, h⟩
  · exact mapM_compileTerm_error hn
  · cases h

/-- Whether a query compiles is a matter of its terms, and there is one kind of failure. -/
theorem compile_cases (o : Options) (q : Query.Classified) :
    ((∀ t ∈ q.terms, Compiles o t) ∧ compile o q = .ok (Compiled.ofQuery o q)) ∨
      (¬ ∀ t ∈ q.terms, Compiles o t) ∧ ∃ reason, compile o q = .error (.invalidQuery reason) := by
  by_cases hc : ∀ t ∈ q.terms, Compiles o t
  · exact Or.inl ⟨hc, (compile_eq_ok_iff o q _).mpr ⟨hc, rfl⟩⟩
  · refine Or.inr ⟨hc, ?_⟩
    cases h : compile o q with
    | ok c => exact absurd ((compile_eq_ok_iff o q c).mp h).1 hc
    | error e =>
      obtain ⟨reason, rfl⟩ := compile_error h
      exact ⟨reason, rfl⟩

/-- A repeated character takes as many times the space of one. -/
theorem compiledBytes_replicate (n : Nat) (c : Char) (openEnded : Bool) (options : Options) :
    (Pattern.mk (List.replicate n c) openEnded options).compiledBytes =
      n * (Pattern.mk [c] openEnded options).compiledBytes := by
  induction n with
  | zero =>
    rw [Nat.zero_mul]
    rfl
  | succ n ih =>
    rw [Nat.succ_mul, ← ih, Nat.add_comm (Pattern.compiledBytes _)]
    simp only [Pattern.compiledBytes, List.replicate_succ, List.foldr_cons, List.foldr_nil,
      Nat.add_zero]

end Match

namespace Search

open Text
open Match (Options Compiled Compiles)

/-! ## Guards -/

/-- An empty document is refused first, then a blank query, and the last reason is the query. -/
structure Guarded {α : Type} (ps : List String) (query : String) (outcome : Except Error α) :
    Prop where
  emptyDocument : outcome = .error .emptyDocument ↔ ps = []
  emptyQuery : outcome = .error .emptyQuery ↔ ps ≠ [] ∧ trim query.toList = []
  invalidQuery : ∀ e, ps ≠ [] → trim query.toList ≠ [] → outcome = .error e →
    ∃ reason, e = .invalidQuery reason

theorem prepare_cases (ps : List String) (query : String) :
    (ps = [] ∧ prepare ps query = .error .emptyDocument) ∨
    (ps ≠ [] ∧ trim query.toList = [] ∧ prepare ps query = .error .emptyQuery) ∨
    (ps ≠ [] ∧ trim query.toList ≠ [] ∧ prepare ps query = .ok (trimmed query)) := by
  by_cases hp : ps = []
  · exact Or.inl ⟨hp, by simp [prepare, hp]⟩
  · by_cases hq : trim query.toList = []
    · exact Or.inr (Or.inl ⟨hp, hq, by simp [prepare, hp, hq]⟩)
    · exact Or.inr (Or.inr ⟨hp, hq, prepare_eq_ok hp hq⟩)

/-- What follows the guards can only blame the query. -/
theorem guarded_bind {α : Type} (ps : List String) (query : String) {next : String → Except Error α}
    (h : ∀ text e, next text = .error e → ∃ reason, e = .invalidQuery reason) :
    Guarded ps query (prepare ps query >>= next) := by
  rcases prepare_cases ps query with ⟨hp, hr⟩ | ⟨hp, hq, hr⟩ | ⟨hp, hq, hr⟩
  · rw [hr]
    exact ⟨⟨fun _ => hp, fun _ => rfl⟩, ⟨nofun, fun h => absurd hp h.1⟩, fun e h => absurd hp h⟩
  · rw [hr]
    exact ⟨⟨nofun, fun h => absurd h hp⟩, ⟨fun _ => ⟨hp, hq⟩, fun _ => rfl⟩,
      fun e _ h => absurd hq h⟩
  · rw [hr, ok_bind]
    refine ⟨⟨fun he => ?_, fun h => absurd h hp⟩, ⟨fun he => ?_, fun h => absurd h.2 hq⟩,
      fun e _ _ he => h _ e he⟩
    · obtain ⟨reason, hreason⟩ := h _ _ he
      cases hreason
    · obtain ⟨reason, hreason⟩ := h _ _ he
      cases hreason

theorem run_error {o : Options} {ps : List String} {q : Query.Classified} {e : Error}
    (h : run o ps q = .error e) : ∃ reason, e = .invalidQuery reason := by
  rw [run] at h
  split at h
  · cases h
  · rcases Match.compile_cases o q with ⟨_, hc⟩ | ⟨_, reason, hc⟩
    · rw [hc] at h
      cases h
    · rw [hc] at h
      exact ⟨reason, (Except.error.inj h).symm⟩

theorem checkLength_of_le {limit : Nat} {text : String} (h : text.length ≤ limit) :
    checkLength limit text = .ok text :=
  if_pos h

theorem checkLength_of_lt {limit : Nat} {text : String} (h : limit < text.length) :
    ∃ reason, checkLength limit text = .error (.invalidQuery reason) :=
  ⟨_, if_neg (Nat.not_le.mpr h)⟩

theorem limited_eq (limit : Nat) (o : Options) (ps : List String) (query : String) :
    limited limit o ps query = prepare ps query >>= fun text =>
      checkLength limit text >>= fun text =>
        run o ps (Query.parse text) >>= fun found => .ok ⟨text, Query.parse text, found⟩ := by
  rw [limited]
  cases prepare ps query with
  | error e => rfl
  | ok text => rfl

theorem guarded_search (o : Options) (ps : List String) (query : String) :
    Guarded ps query (search o ps query) :=
  guarded_bind ps query fun _ _ => run_error

theorem guarded_limited (limit : Nat) (o : Options) (ps : List String) (query : String) :
    Guarded ps query (limited limit o ps query) := by
  rw [limited_eq]
  refine guarded_bind ps query fun text e h => ?_
  by_cases hl : text.length ≤ limit
  · rw [checkLength_of_le hl, ok_bind] at h
    rcases error_of_bind h with h | ⟨found, _, h⟩
    · exact run_error h
    · cases h
  · obtain ⟨reason, hr⟩ := checkLength_of_lt (Nat.not_le.mp hl)
    rw [hr, error_bind] at h
    exact ⟨reason, (Except.error.inj h).symm⟩

/-- Up to its limit a limited search answers as a search does. -/
theorem limited_of_short {limit : Nat} {query : String} (h : (trimmed query).length ≤ limit)
    (o : Options) (ps : List String) :
    (limited limit o ps query).map Response.findings = search o ps query := by
  rw [limited_eq, search]
  rcases prepare_cases ps query with ⟨_, hr⟩ | ⟨_, _, hr⟩ | ⟨_, _, hr⟩
  · rw [hr]
    rfl
  · rw [hr]
    rfl
  · rw [hr, ok_bind, ok_bind, checkLength_of_le h, ok_bind]
    cases run o ps (Query.parse (trimmed query)) with
    | error e => rfl
    | ok found => rfl

theorem limited_of_long {limit : Nat} {ps : List String} {query : String}
    (h : limit < (trimmed query).length) (hp : ps ≠ []) (o : Options) :
    ∃ reason, limited limit o ps query = .error (.invalidQuery reason) := by
  have hq : trim query.toList ≠ [] := by
    intro hq
    rw [trimmed, hq] at h
    exact absurd h (by simp)
  obtain ⟨reason, hr⟩ := checkLength_of_lt h
  refine ⟨reason, ?_⟩
  rw [limited_eq, prepare_eq_ok hp hq, ok_bind, hr, error_bind]

/-! ## Searching and matching -/

/-- The outcome of a search is what matching each single paragraph gives. -/
structure Pointwise (o : Options) (q : Query.Classified) (ps : List String)
    (outcome : Except Error (List Finding)) : Prop where
  fails : ∀ p e, outcome = .error e ↔ Match.annotate o q p = .error e
  within : ∀ found, outcome = .ok found → Within ps found
  finds : ∀ found, outcome = .ok found → ∀ i a, (∃ f ∈ found, f.index = i ∧ f.annotated = a) ↔
    ∃ p, ps[i]? = some p ∧ Match.annotate o q p = .ok (some a)

theorem annotate_of_compile_ok {o : Options} {q : Query.Classified} {c : Compiled}
    (h : Match.compile o q = .ok c) (p : String) : Match.annotate o q p = .ok (c.annotate? p) := by
  rw [Match.annotate, h]
  rfl

theorem annotate_of_compile_error {o : Options} {q : Query.Classified} {e : Error}
    (h : Match.compile o q = .error e) (p : String) : Match.annotate o q p = .error e := by
  rw [Match.annotate, h]
  rfl

theorem pointwise_run {q : Query.Classified} (h : q.must ≠ [] ∨ q.should ≠ []) (o : Options)
    (ps : List String) : Pointwise o q ps (run o ps q) := by
  have hrun : run o ps q = (Match.compile o q).map (collectFrom · 0 ps) := by
    rw [run, (asked_iff q).mp h]
    rfl
  rw [hrun]
  cases hc : Match.compile o q with
  | error e =>
    change Pointwise o q ps (.error e)
    refine ⟨fun p e' => ?_, fun _ hf => ?_, fun _ hf => ?_⟩
    · rw [annotate_of_compile_error hc, Except.error.injEq, Except.error.injEq]
    · cases hf
    · cases hf
  | ok c =>
    change Pointwise o q ps (.ok (collectFrom c 0 ps))
    refine ⟨fun p e => ?_, fun found hf => ?_, fun found hf i a => ?_⟩
    · rw [annotate_of_compile_ok hc]
      exact iff_of_false (by simp) (by simp)
    · obtain rfl := Except.ok.inj hf
      exact within_collectFrom c ps
    · obtain rfl := Except.ok.inj hf
      simp only [mem_collectFrom, annotate_of_compile_ok hc, Except.ok.injEq, Nat.zero_add]
      constructor
      · intro hm
        obtain ⟨f, ⟨k, p, b, hk, hb, rfl⟩, rfl, rfl⟩ := hm
        exact ⟨p, hk, hb⟩
      · intro hm
        obtain ⟨p, hk, ha⟩ := hm
        exact ⟨_, ⟨i, p, a, hk, ha, rfl⟩, rfl, rfl⟩

/-- A query that only excludes is not compiled by a search, and nothing is found. Matching a
paragraph finds nothing either, except that it fails where an excluded term does not compile. -/
structure Shortcut (o : Options) (q : Query.Classified) (outcome : Except Error (List Finding)) :
    Prop where
  finds : outcome = .ok []
  agrees : ∀ p, Match.annotate o q p = .ok none ↔ ∀ t ∈ q.not, Compiles o t
  fails : ∀ p, (∃ reason, Match.annotate o q p = .error (.invalidQuery reason)) ↔
    ∃ t ∈ q.not, ¬ Compiles o t

theorem shortcut_run {q : Query.Classified} (hm : q.must = []) (hs : q.should = []) (o : Options)
    (ps : List String) : Shortcut o q (run o ps q) := by
  have hterms : (∀ t ∈ q.terms, Compiles o t) ↔ ∀ t ∈ q.not, Compiles o t := by
    rw [Query.Classified.terms, hm, hs, List.nil_append, List.nil_append]
  have hnot : (∃ t ∈ q.not, ¬ Compiles o t) ↔ ¬ ∀ t ∈ q.terms, Compiles o t := by
    rw [hterms]
    simp
  have hfind : run o ps q = .ok [] := by
    simp [run, Query.Classified.unmatchable, hm, hs]
  rcases Match.compile_cases o q with ⟨hc, hok⟩ | ⟨hc, reason, herr⟩
  · have hnone : ∀ p, (Compiled.ofQuery o q).annotate? p = none := by
      intro p
      simp [Compiled.annotate?, Compiled.accepts, Compiled.ofQuery, hm, hs]
    refine ⟨hfind, fun p => ?_, fun p => ?_⟩
    · rw [annotate_of_compile_ok hok, hnone]
      exact ⟨fun _ => hterms.mp hc, fun _ => rfl⟩
    · rw [annotate_of_compile_ok hok, hnot]
      exact iff_of_false (by simp) (not_not_intro hc)
  · refine ⟨hfind, fun p => ?_, fun p => ?_⟩
    · rw [annotate_of_compile_error herr]
      exact iff_of_false (by simp) (mt hterms.mpr hc)
    · rw [annotate_of_compile_error herr, hnot]
      exact ⟨fun _ => hc, fun _ => ⟨reason, rfl⟩⟩

/-- A search and a limited search refuse the same inputs in the same order and otherwise agree, up
to the limit. A search that looks for something is the matching of its paragraphs, failures
included; one that only excludes finds nothing, where matching fails if a term does not compile. -/
theorem search_paths_agree (limit : Nat) (o : Options) (ps : List String) (query : String) :
    ((trimmed query).length ≤ limit →
      (limited limit o ps query).map Response.findings = search o ps query) ∧
    (limit < (trimmed query).length → ps ≠ [] →
      ∃ reason, limited limit o ps query = .error (.invalidQuery reason)) ∧
    Guarded ps query (search o ps query) ∧ Guarded ps query (limited limit o ps query) ∧
    (ps ≠ [] → trim query.toList ≠ [] →
      let q := understood query
      (q.must ≠ [] ∨ q.should ≠ [] → Pointwise o q ps (search o ps query)) ∧
      (q.must = [] ∧ q.should = [] → Shortcut o q (search o ps query))) := by
  refine ⟨fun h => limited_of_short h o ps, fun h hp => limited_of_long h hp o,
    guarded_search o ps query, guarded_limited limit o ps query, fun hp hq => ?_⟩
  have hrun : search o ps query = run o ps (understood query) := by
    rw [search, prepare_eq_ok hp hq]
    rfl
  rw [hrun]
  exact ⟨fun h => pointwise_run h o ps, fun h => shortcut_run h.1 h.2 o ps⟩

theorem trimmed_excluded {word : List Char} (hb : ∀ c ∈ word, isBlank c = false) :
    Trimmed ('-' :: word) := by
  have hall : ∀ c ∈ '-' :: word, isBlank c = false := List.forall_mem_cons.mpr ⟨by decide, hb⟩
  exact ⟨fun c hc => hall c (List.mem_of_mem_head? hc), fun c hc => hall c (List.mem_of_getLast? hc)⟩

theorem understood_excluded {word : List Char} (hb : ∀ c ∈ word, isBlank c = false)
    (hs : word.getLast? ≠ some '*') : understood (String.ofList ('-' :: word)) =
      { not := [⟨.plain, String.ofList word, false⟩] } := by
  have hp : ({ not := [⟨.plain, String.ofList word, false⟩] } : Query.Classified).Printable := by
    refine ⟨nofun, nofun, List.forall_mem_singleton.mpr ⟨⟨fun _ => ?_, nofun, fun _ => ?_⟩, rfl⟩⟩
    · simpa [Query.Term.text] using hb
    · rwa [String.toList_ofList]
  rw [understood, trimmed, String.toList_ofList, trim_of_trimmed (trimmed_excluded hb),
    ← Query.parse_written hp]
  simp [Query.Classified.written, Query.Classified.parts, Query.Term.written, Query.Term.token,
    Query.Token.written, Query.Term.text]

/-- An excluded word of 60000 letters, each of which has three forms, does not compile. The search
finds nothing all the same, matching fails, and a limited search refuses the query by its length. -/
theorem search_paths_agree_oversized :
    let word := List.replicate 60000 'k'
    let query := String.ofList ('-' :: word)
    let q : Query.Classified := { not := [⟨.plain, String.ofList word, false⟩] }
    understood query = q ∧ search {} ["a fox"] query = .ok [] ∧
      (limited 60001 {} ["a fox"] query).map Response.findings = .ok [] ∧
      (∃ reason, limited 500 {} ["a fox"] query = .error (.invalidQuery reason)) ∧
      ∃ reason, Match.annotate {} q "a fox" = .error (.invalidQuery reason) := by
  intro word query q
  have hk : ∀ c ∈ word, c = 'k' := fun c hc => List.eq_of_mem_replicate hc
  have hb : ∀ c ∈ word, isBlank c = false := fun c hc => (hk c hc).symm ▸ rfl
  have hs : word.getLast? ≠ some '*' := by
    intro h
    exact absurd (hk _ (List.mem_of_getLast? h)) (by decide)
  have hu : understood query = q := understood_excluded hb hs
  have htrim : trim query.toList = '-' :: word := by
    rw [String.toList_ofList, trim_of_trimmed (trimmed_excluded hb)]
  have hlength : (trimmed query).length = 60001 := by
    rw [trimmed, htrim, String.length_ofList, List.length_cons, List.length_replicate]
  have hlarge : ¬ Compiles {} ⟨.plain, String.ofList word, false⟩ := by
    rw [Match.compiles_iff, Match.Pattern.ofTerm, Match.Pattern.fits, String.toList_ofList,
      Match.compiledBytes_replicate]
    decide
  obtain ⟨_, hlong, _, _, hmatch⟩ := search_paths_agree 500 {} ["a fox"] query
  obtain ⟨hshort, _⟩ := search_paths_agree 60001 {} ["a fox"] query
  have hcut : Shortcut {} q (search {} ["a fox"] query) := by
    rw [← hu]
    refine (hmatch (by decide) (by rw [htrim]; exact List.cons_ne_nil _ _)).2 ?_
    rw [hu]
    exact ⟨rfl, rfl⟩
  refine ⟨hu, hcut.finds, ?_, hlong (by rw [hlength]; decide) (by decide),
    (hcut.fails "a fox").mpr ⟨_, List.mem_singleton_self _, hlarge⟩⟩
  rw [hshort (Nat.le_of_eq hlength), hcut.finds]

end Search

end Passage
