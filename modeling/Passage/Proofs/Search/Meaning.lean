import Passage.Proofs.Match.Expression
import Passage.Proofs.Match.Satisfies
import Passage.Search

/-!
# What a search finds

A search gives one result for each paragraph that satisfies the query, in document
order and with the paragraph as it stands. Which paragraphs these are is said by
occurrences alone. Optional terms and the order of terms have no part in it.
-/

namespace Passage.Search

open Text
open Match (Options Compiled Compiles Satisfies Occurs Pattern)

/-! ## Collecting -/

theorem mem_collectFrom (c : Compiled) (i : Nat) (ps : List String) (f : Finding) :
    f ∈ collectFrom c i ps ↔
      ∃ k p a, ps[k]? = some p ∧ c.annotate? p = some a ∧ f = ⟨i + k, a, p⟩ := by
  induction ps generalizing i with
  | nil => simp [collectFrom]
  | cons p ps ih =>
    -- the first paragraph is place zero, the others are one place further
    have hsplit : (∃ k r a, (p :: ps)[k]? = some r ∧ c.annotate? r = some a ∧ f = ⟨i + k, a, r⟩) ↔
        (∃ a, c.annotate? p = some a ∧ f = ⟨i, a, p⟩) ∨
          ∃ k r a, ps[k]? = some r ∧ c.annotate? r = some a ∧ f = ⟨i + 1 + k, a, r⟩ := by
      constructor
      · intro h
        obtain ⟨k, r, a, hk, ha, rfl⟩ := h
        cases k with
        | zero =>
          obtain rfl : p = r := by simpa using hk
          exact Or.inl ⟨a, ha, rfl⟩
        | succ k => exact Or.inr ⟨k, r, a, by simpa using hk, ha, by rw [Nat.add_right_comm]; rfl⟩
      · rintro (⟨a, ha, rfl⟩ | ⟨k, r, a, hk, ha, rfl⟩)
        · exact ⟨0, p, a, rfl, ha, rfl⟩
        · exact ⟨k + 1, r, a, by simpa using hk, ha, by rw [Nat.add_right_comm]; rfl⟩
    rw [hsplit, collectFrom]
    cases c.annotate? p with
    | none => simp [ih]
    | some a => simp [ih]

theorem index_collectFrom_ge {c : Compiled} {i : Nat} {ps : List String} {f : Finding}
    (h : f ∈ collectFrom c i ps) : i ≤ f.index := by
  obtain ⟨k, p, a, _, _, rfl⟩ := (mem_collectFrom c i ps f).mp h
  exact Nat.le_add_right i k

theorem collectFrom_ascending (c : Compiled) (i : Nat) (ps : List String) :
    (collectFrom c i ps).Pairwise (·.index < ·.index) := by
  induction ps generalizing i with
  | nil => exact .nil
  | cons p ps ih =>
    rw [collectFrom]
    cases c.annotate? p with
    | none => exact ih (i + 1)
    | some a => exact .cons (fun f hf => index_collectFrom_ge hf) (ih (i + 1))

/-- The findings are paragraphs of the text, unchanged and in ascending order. -/
structure Within (ps : List String) (found : List Finding) : Prop where
  ascending : found.Pairwise (·.index < ·.index)
  bounded : ∀ f ∈ found, f.index < ps.length
  unchanged : ∀ f ∈ found, ps[f.index]? = some f.raw

theorem within_nil (ps : List String) : Within ps [] := by
  constructor
  · exact .nil
  · intro f hf
    cases hf
  · intro f hf
    cases hf

theorem within_collectFrom (c : Compiled) (ps : List String) : Within ps (collectFrom c 0 ps) := by
  have hraw : ∀ f ∈ collectFrom c 0 ps, ps[f.index]? = some f.raw := by
    intro f hf
    obtain ⟨k, p, a, hk, _, rfl⟩ := (mem_collectFrom c 0 ps f).mp hf
    rw [Nat.zero_add]
    exact hk
  refine ⟨collectFrom_ascending c 0 ps, ?_, hraw⟩
  intro f hf
  obtain ⟨h, _⟩ := List.getElem?_eq_some_iff.mp (hraw f hf)
  exact h

/-- The places found are decided by which paragraphs are accepted. -/
theorem indices_collectFrom_congr {c d : Compiled} (i : Nat) {ps : List String}
    (h : ∀ p ∈ ps, c.accepts p.toList = d.accepts p.toList) :
    (collectFrom c i ps).map Finding.index = (collectFrom d i ps).map Finding.index := by
  induction ps generalizing i with
  | nil => rfl
  | cons p ps ih =>
    have htail := ih (i + 1) fun r hr => h r (List.mem_cons_of_mem p hr)
    have hhead : (c.annotate? p).isSome = (d.annotate? p).isSome := by
      rw [c.annotate?_isSome, d.annotate?_isSome]
      exact h p List.mem_cons_self
    rw [collectFrom, collectFrom]
    cases hc : c.annotate? p with
    | none =>
      obtain hd : d.annotate? p = none := by simpa [hc] using hhead
      simpa [hd] using htail
    | some a =>
      obtain ⟨b, hd⟩ : ∃ b, d.annotate? p = some b := by
        simpa [hc, Option.isSome_iff_exists] using hhead.symm
      simpa [hd] using htail

/-! ## Running a query -/

theorem prepare_eq_ok {ps : List String} {query : String} (hp : ps ≠ [])
    (hq : trim query.toList ≠ []) : prepare ps query = .ok (trimmed query) := by
  simp [prepare, hp, hq]

theorem asked_iff (q : Query.Classified) :
    (q.must ≠ [] ∨ q.should ≠ []) ↔ q.unmatchable = false := by
  rw [← Classical.not_and_iff_not_or_not, ← Bool.not_eq_true]
  simp [Query.Classified.unmatchable]

/-- The findings of a query that compiles, one that only excludes included. -/
theorem run_eq_ok {o : Options} {q : Query.Classified} (ps : List String)
    (hc : ∀ t ∈ q.terms, Compiles o t) :
    run o ps q = .ok (collectFrom (Compiled.ofQuery o q) 0 ps) := by
  rw [run]
  split
  · next hu =>
    have hnone : ∀ p ∈ ps, ¬ (Compiled.ofQuery o q).accepts p.toList := by
      intro p _ ha
      have hasked := ((Compiled.accepts_iff o q p.toList).mp ha).asked
      rw [asked_iff, hu] at hasked
      cases hasked
    congr 1
    refine (List.eq_nil_iff_forall_not_mem.mpr fun f hf => ?_).symm
    obtain ⟨k, p, a, hk, ha, _⟩ := (mem_collectFrom _ _ _ f).mp hf
    apply hnone p (List.mem_of_getElem? hk)
    rw [← Compiled.annotate?_isSome, ha]
    rfl
  · rw [(Match.compile_eq_ok_iff o q _).mpr ⟨hc, rfl⟩]
    rfl

theorem within_run {o : Options} {ps : List String} {q : Query.Classified} {found : List Finding}
    (h : run o ps q = .ok found) : Within ps found := by
  rw [run] at h
  split at h
  · obtain rfl := Except.ok.inj h
    exact within_nil ps
  · cases hc : Match.compile o q with
    | error e => rw [hc] at h; cases h
    | ok c =>
      rw [hc] at h
      obtain rfl := Except.ok.inj h
      exact within_collectFrom c ps

/-- A limited search that succeeds has run the query that it reports. -/
theorem run_of_limited {limit : Nat} {o : Options} {ps : List String} {query : String}
    {r : Response} (h : limited limit o ps query = .ok r) :
    run o ps r.classified = .ok r.findings := by
  rw [limited] at h
  cases hp : prepare ps query >>= checkLength limit with
  | error e => rw [hp] at h; cases h
  | ok text =>
    rw [hp] at h
    change (run o ps (Query.parse text)).bind _ = _ at h
    cases hr : run o ps (Query.parse text) with
    | error e => rw [hr] at h; cases h
    | ok found =>
      rw [hr] at h
      obtain rfl := Except.ok.inj h
      exact hr

/-- The query as a search takes it, white space around it aside. -/
def understood (query : String) : Query.Classified := Query.parse (trimmed query)

theorem search_eq_ok {o : Options} {ps : List String} {query : String} (hp : ps ≠ [])
    (hq : trim query.toList ≠ []) (hc : ∀ t ∈ (understood query).terms, Compiles o t) :
    search o ps query = .ok (collectFrom (Compiled.ofQuery o (understood query)) 0 ps) := by
  rw [search, prepare_eq_ok hp hq]
  exact run_eq_ok ps hc

theorem mem_indices_iff (o : Options) (q : Query.Classified) (ps : List String) (i : Nat) :
    i ∈ (collectFrom (Compiled.ofQuery o q) 0 ps).map Finding.index ↔
      ∃ p, ps[i]? = some p ∧ Satisfies o q p.toList := by
  rw [List.mem_map]
  constructor
  · intro h
    obtain ⟨f, hf, rfl⟩ := h
    obtain ⟨k, p, a, hk, ha, rfl⟩ := (mem_collectFrom _ _ _ f).mp hf
    refine ⟨p, by simpa using hk, ?_⟩
    rw [← Compiled.accepts_iff, ← Compiled.annotate?_isSome, ha]
    rfl
  · intro h
    obtain ⟨p, hp, hs⟩ := h
    rw [← Compiled.accepts_iff, ← Compiled.annotate?_isSome, Option.isSome_iff_exists] at hs
    obtain ⟨a, ha⟩ := hs
    exact ⟨_, (mem_collectFrom _ _ _ _).mpr ⟨i, p, a, hp, ha, rfl⟩, Nat.zero_add i⟩

/-- The second query asks for what the first one does, apart from order and optional terms. -/
structure SameDemand (q r : Query.Classified) : Prop where
  required : q.must.Perm r.must
  excluded : q.not.Perm r.not
  asked : q.unmatchable = r.unmatchable

theorem SameDemand.symm {q r : Query.Classified} (h : SameDemand q r) : SameDemand r q :=
  ⟨h.required.symm, h.excluded.symm, h.asked.symm⟩

theorem satisfies_of_sameDemand {o : Options} {q r : Query.Classified} (h : SameDemand q r)
    {text : List Char} (hs : Satisfies o q text) : Satisfies o r text := by
  constructor
  · intro t ht
    exact hs.excluded t (h.excluded.mem_iff.mpr ht)
  · intro t ht
    exact hs.required t (h.required.mem_iff.mpr ht)
  · rw [asked_iff, ← h.asked, ← asked_iff]
    exact hs.asked

/-- A search succeeds with one finding for each paragraph that satisfies the query, in ascending
order and with the paragraph unchanged. A query with the same demand finds the same places, whatever
its optional terms and the order of its terms. A term occurs where the expression that its pattern's
source writes down matches. -/
theorem search_finds_satisfying (o : Options) (ps : List String) (query : String) (hp : ps ≠ [])
    (hq : trim query.toList ≠ []) (hc : ∀ t ∈ (understood query).terms, Compiles o t) :
    (∃ found, search o ps query = .ok found ∧
      found.Pairwise (·.index < ·.index) ∧
      (∀ f ∈ found, ps[f.index]? = some f.raw) ∧
      ∀ i, i ∈ found.map Finding.index ↔
        ∃ p, ps[i]? = some p ∧ Satisfies o (understood query) p.toList) ∧
    (∀ other, trim other.toList ≠ [] → (∀ t ∈ (understood other).terms, Compiles o t) →
      SameDemand (understood query) (understood other) →
      (search o ps other).map (·.map Finding.index) =
        (search o ps query).map (·.map Finding.index)) ∧
    ∀ t ∈ (understood query).terms, ∀ text,
      ∃ e, Match.Expression.read (Pattern.ofTerm t o).source = some e ∧
        (e.matchesIn o.caseSensitive text ↔ Occurs t o text) := by
  have hw := within_collectFrom (Compiled.ofQuery o (understood query)) ps
  refine ⟨⟨_, search_eq_ok hp hq hc, hw.ascending, hw.unchanged, mem_indices_iff o _ ps⟩, ?_, ?_⟩
  · intro other hq' hc' hd
    rw [search_eq_ok hp hq hc, search_eq_ok hp hq' hc']
    simp only [Except.map, Except.ok.injEq]
    refine indices_collectFrom_congr 0 fun p _ => ?_
    rw [Bool.eq_iff_iff, Compiled.accepts_iff, Compiled.accepts_iff]
    exact ⟨satisfies_of_sameDemand hd.symm, satisfies_of_sameDemand hd⟩
  · intro t _ text
    exact ⟨_, Match.read_source _, Match.Expression.matchesIn_iff t o text⟩

/-- Whole words, a wildcard and an exclusion: of three paragraphs the first one is found. -/
theorem search_finds_satisfying_first :
    (∀ t ∈ (understood "fox jump* -slow").terms, Compiles ⟨false, true⟩ t) ∧
    ∃ found, search ⟨false, true⟩ ["The quick fox jumps", "A slow fox jumps", "foxes jump"]
        "fox jump* -slow" = .ok found ∧
      0 ∈ found.map Finding.index ∧ 1 ∉ found.map Finding.index ∧ 2 ∉ found.map Finding.index := by
  have hq : understood "fox jump* -slow" = ⟨[⟨.plain, "fox", false⟩, ⟨.plain, "jump", true⟩], [],
      [⟨.plain, "slow", false⟩]⟩ := by decide +kernel
  have hc : ∀ t ∈ (understood "fox jump* -slow").terms, Compiles ⟨false, true⟩ t := by
    rw [hq]
    intro t ht
    simp only [Query.Classified.terms, List.nil_append, List.cons_append, List.mem_cons,
      List.not_mem_nil, or_false] at ht
    rcases ht with rfl | rfl | rfl <;> exact ⟨_, rfl⟩
  obtain ⟨⟨found, hf, _, _, hi⟩, _⟩ := search_finds_satisfying ⟨false, true⟩
    ["The quick fox jumps", "A slow fox jumps", "foxes jump"] "fox jump* -slow" (by decide)
    (by decide) hc
  simp only [← Compiled.accepts_iff, hq] at hi
  refine ⟨hc, found, hf, ?_, ?_, ?_⟩
  · exact (hi 0).mpr ⟨_, rfl, by decide +kernel⟩
  · intro h
    obtain ⟨p, hp, hs⟩ := (hi 1).mp h
    obtain rfl := Option.some.inj hp
    exact absurd hs (by decide +kernel)
  · intro h
    obtain ⟨p, hp, hs⟩ := (hi 2).mp h
    obtain rfl := Option.some.inj hp
    exact absurd hs (by decide +kernel)

end Passage.Search
